import DockerfileAudit.Instruction.Files
import Mathlib.Data.List.Forall2

/-!
Files as a map from names to sets of instructions. The list behind it is an accident: what is found
under each name says all there is to say.
-/
set_option autoImplicit false

namespace DockerfileAudit

theorem find_eq_none_of_below (file : Text) (sets : List InstructionSet)
    (below : ∀ set ∈ sets, file < set.file) :
    (sets.find? fun set => set.file = file) = none := by
  rw [List.find?_eq_none]
  intro set member same
  have less := below set member
  rw [of_decide_eq_true same] at less
  exact List.lt_irrefl _ less

theorem find_cons (file : Text) (set : InstructionSet) (rest : List InstructionSet) :
    ((set :: rest).find? fun set => set.file = file) =
      if set.file = file then some set else rest.find? fun set => set.file = file := by
  by_cases same : set.file = file
  · simp [same]
  · simp [same]

theorem find_register_in (file other : Text) (statements : List Statement)
    (sets : List InstructionSet)
    (ascending : sets.Pairwise fun left right => left.file < right.file) :
    ((registerIn file statements sets).find? fun set => set.file = other) =
      if file = other then
        some (((sets.find? fun set => set.file = file).getD (InstructionSet.empty file)).append
          statements)
      else sets.find? fun set => set.file = other := by
  induction sets with
  | nil =>
      rw [registerIn, find_cons, file_append]
      rfl
  | cons first rest ih =>
      obtain ⟨below, restAscending⟩ := List.pairwise_cons.mp ascending
      rw [registerIn]
      by_cases here : file = first.file
      · subst here
        rw [if_pos rfl, find_cons, find_cons, find_cons, file_append, if_pos rfl]
        by_cases same : first.file = other
        · rw [if_pos same, if_pos same]
          rfl
        · rw [if_neg same, if_neg same, if_neg same]
      · rw [if_neg here, find_cons file, if_neg (Ne.symm here)]
        by_cases less : file < first.file
        · have unknown := find_eq_none_of_below file rest fun set member =>
            List.lt_trans less (below set member)
          rw [if_pos less, find_cons other, file_append, unknown]
          rfl
        · rw [if_neg less, find_cons other, find_cons other, ih restAscending]
          by_cases same : file = other
          · rw [if_pos same, if_pos same, if_neg (same ▸ Ne.symm here)]
          · rw [if_neg same, if_neg same]

theorem Files.find_register (files : Files) (file other : Text) (statements : List Statement) :
    (files.register file statements).find? other =
      if file = other then
        some (((files.find? file).getD (InstructionSet.empty file)).append statements)
      else files.find? other :=
  find_register_in file other statements files.sets files.ascending

theorem find_of_mem (sets : List InstructionSet)
    (ascending : sets.Pairwise fun left right => left.file < right.file) (set : InstructionSet)
    (member : set ∈ sets) : (sets.find? fun other => other.file = set.file) = some set := by
  induction sets with
  | nil => cases member
  | cons first rest ih =>
      obtain ⟨below, restAscending⟩ := List.pairwise_cons.mp ascending
      rw [find_cons]
      rcases List.mem_cons.mp member with same | later
      · rw [same, if_pos rfl]
      · have other : first.file ≠ set.file := by
          intro same
          have less := below set later
          rw [same] at less
          exact List.lt_irrefl _ less
        rw [if_neg other, ih restAscending later]

theorem Files.find_eq_some_iff (files : Files) (name : Text) (set : InstructionSet) :
    files.find? name = some set ↔ set ∈ files.sets ∧ set.file = name := by
  constructor
  · intro found
    have there := @List.find?_some _ (fun other : InstructionSet => other.file = name) _ _ found
    exact ⟨List.mem_of_find?_eq_some found, of_decide_eq_true there⟩
  · rintro ⟨member, rfl⟩
    exact find_of_mem files.sets files.ascending set member

theorem find_eq_none_of_less_first (file : Text) (set : InstructionSet)
    (rest : List InstructionSet)
    (ascending : (set :: rest).Pairwise fun left right => left.file < right.file)
    (less : file < set.file) : ((set :: rest).find? fun set => set.file = file) = none := by
  obtain ⟨below, _⟩ := List.pairwise_cons.mp ascending
  apply find_eq_none_of_below
  refine List.forall_mem_cons.mpr ⟨less, ?_⟩
  intro other later
  exact List.lt_trans less (below other later)

/-- If two maps hold related sets under each name, their lists are related set by set, since both
ascend. -/
theorem forall₂_of_find (Related : InstructionSet → InstructionSet → Prop)
    (left right : List InstructionSet)
    (leftAscending : left.Pairwise fun left right => left.file < right.file)
    (rightAscending : right.Pairwise fun left right => left.file < right.file)
    (related : ∀ file, Option.Rel Related (left.find? fun set => set.file = file)
      (right.find? fun set => set.file = file)) :
    List.Forall₂ (fun a b => a.file = b.file ∧ Related a b) left right := by
  induction left generalizing right with
  | nil =>
      cases right with
      | nil => exact List.Forall₂.nil
      | cons b right =>
          have here := related b.file
          simp only [List.find?_nil, find_cons, if_pos] at here
          cases here
  | cons a left ih =>
      cases right with
      | nil =>
          have here := related a.file
          simp only [List.find?_nil, find_cons, if_pos] at here
          cases here
      | cons b right =>
          obtain ⟨aBelow, leftRest⟩ := List.pairwise_cons.mp leftAscending
          obtain ⟨bBelow, rightRest⟩ := List.pairwise_cons.mp rightAscending
          have sameFile : a.file = b.file := by
            rcases Std.lt_trichotomy a.file b.file with less | same | more
            · have here := related a.file
              rw [find_eq_none_of_less_first a.file b right rightAscending less, find_cons,
                if_pos rfl] at here
              cases here
            · exact same
            · have here := related b.file
              rw [find_eq_none_of_less_first b.file a left leftAscending more,
                find_cons b.file b, if_pos rfl] at here
              cases here
          have firstRelated : Related a b := by
            have here := related a.file
            rw [find_cons, find_cons, if_pos rfl, if_pos sameFile.symm] at here
            cases here with
            | some pair => exact pair
          refine List.Forall₂.cons ⟨sameFile, firstRelated⟩ (ih right leftRest rightRest ?_)
          intro file
          by_cases here : a.file = file
          · subst here
            rw [find_eq_none_of_below a.file left aBelow, sameFile,
              find_eq_none_of_below b.file right bBelow]
            exact Option.Rel.none
          · have there := related file
            rw [find_cons, find_cons, if_neg here, if_neg (sameFile ▸ here)] at there
            exact there

theorem Files.ext_find (left right : Files) (same : ∀ file, left.find? file = right.find? file) :
    left = right := by
  have related : List.Forall₂ (fun a b : InstructionSet => a.file = b.file ∧ a = b)
      left.sets right.sets := by
    apply forall₂_of_find (· = ·) left.sets right.sets left.ascending right.ascending
    intro file
    have here : left.sets.find? (fun set => set.file = file) =
        right.sets.find? fun set => set.file = file := same file
    rw [here]
    cases right.sets.find? fun set => set.file = file with
    | none => exact Option.Rel.none
    | some set => exact Option.Rel.some rfl
  have sameSets : left.sets = right.sets := by
    rw [← List.forall₂_eq_eq_eq]
    exact related.imp fun _ _ pair => pair.2
  cases left
  cases right
  simpa using sameSets

end DockerfileAudit
