import DockerfileAudit.Text.Basic
import Mathlib.Data.List.Sort

/-!
Lists as sets: the distinct elements in ascending order depend on which elements there are and on
nothing else.
-/
set_option autoImplicit false

namespace DockerfileAudit

section

variable {α : Type} [DecidableEq α] [LT α] [DecidableLT α]

theorem mem_insert_sorted (a b : α) (items : List α) :
    b ∈ insertSorted a items ↔ b = a ∨ b ∈ items := by
  induction items with
  | nil => simp [insertSorted]
  | cons first rest ih =>
      rw [insertSorted]
      split
      · rename_i same
        simp [same]
      · split
        · simp
        · simp only [List.mem_cons, ih]
          tauto

theorem mem_sorted_set (b : α) (items : List α) : b ∈ sortedSet items ↔ b ∈ items := by
  unfold sortedSet
  induction items with
  | nil => simp
  | cons first rest ih => rw [List.foldr_cons, mem_insert_sorted, ih, List.mem_cons]

variable [Trans (fun a b : α => a < b) (fun a b : α => a < b) (fun a b : α => a < b)]
  [Std.Trichotomous (fun a b : α => a < b)]

theorem ascending_insert_sorted (a : α) (items : List α) (ascending : items.Pairwise (· < ·)) :
    (insertSorted a items).Pairwise (· < ·) := by
  induction items with
  | nil => simp [insertSorted]
  | cons first rest ih =>
      obtain ⟨below, restAscending⟩ := List.pairwise_cons.mp ascending
      rw [insertSorted]
      split
      · exact ascending
      · rename_i different
        split
        · rename_i less
          refine List.pairwise_cons.mpr ⟨List.forall_mem_cons.mpr ⟨less, ?_⟩, ascending⟩
          intro other later
          exact Std.lt_trans less (below other later)
        · rename_i notLess
          refine List.pairwise_cons.mpr ⟨?_, ih restAscending⟩
          intro other member
          rcases (mem_insert_sorted a other rest).mp member with new | later
          · rw [new]
            rcases Std.lt_trichotomy a first with less | same | more
            · exact absurd less notLess
            · exact absurd same different
            · exact more
          · exact below other later

theorem ascending_sorted_set (items : List α) : (sortedSet items).Pairwise (· < ·) := by
  unfold sortedSet
  induction items with
  | nil => exact List.Pairwise.nil
  | cons first rest ih => exact ascending_insert_sorted first _ ih

theorem sorted_set_eq_of_same_members [Std.Asymm (fun a b : α => a < b)] (left right : List α)
    (same : ∀ a, a ∈ left ↔ a ∈ right) : sortedSet left = sortedSet right := by
  apply List.Pairwise.eq_of_mem_iff (ascending_sorted_set left) (ascending_sorted_set right)
  intro a
  rw [mem_sorted_set, mem_sorted_set, same a]

end

end DockerfileAudit
