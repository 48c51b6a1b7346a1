import DockerfileAudit.Proofs.Trim
import DockerfileAudit.Tree.Discover
import Mathlib.Data.List.Sort

/-!
Paths as lists of components. A name below a path is one more component, and the order of paths is a
strict order of these lists; sorting puts distinct ones in that order.
-/
set_option autoImplicit false

namespace DockerfileAudit

namespace Path
namespace Component

instance : Std.Asymm (fun left right : Component => left < right) := ⟨by
  intro left right less more
  rcases less with rank | ⟨same, text⟩
  · rcases more with other | ⟨equal, -⟩ <;> omega
  · rcases more with other | ⟨-, back⟩
    · omega
    · exact List.lt_irrefl _ (List.lt_trans text back)⟩

instance : Trans (fun left right : Component => left < right)
    (fun left right : Component => left < right) (fun left right : Component => left < right) := ⟨by
  intro left middle right less more
  rcases less with rank | ⟨same, text⟩
  · rcases more with other | ⟨equal, -⟩
    · exact Or.inl (by omega)
    · exact Or.inl (by omega)
  · rcases more with other | ⟨equal, further⟩
    · exact Or.inl (by omega)
    · exact Or.inr ⟨by omega, List.lt_trans text further⟩⟩

theorem ext_rank {left right : Component} (rank : left.rank = right.rank)
    (text : left.text = right.text) : left = right := by
  cases left <;> cases right <;> simp_all [Component.rank, Component.text]

instance : Std.Trichotomous (fun left right : Component => left < right) := ⟨by
  intro left right notLess notMore
  have rank : left.rank = right.rank := by
    have first : ¬left.rank < right.rank := fun less => notLess (Or.inl less)
    have second : ¬right.rank < left.rank := fun more => notMore (Or.inl more)
    omega
  refine ext_rank rank ?_
  rcases Std.lt_trichotomy left.text right.text with less | same | more
  · exact absurd (Or.inr ⟨rank, less⟩) notLess
  · exact same
  · exact absurd (Or.inr ⟨rank.symm, more⟩) notMore⟩

end Component

structure IsEntry (name : Text) : Prop where
  some : name ≠ []
  unslashed : '/' ∉ name
  notHere : name ≠ ['.']
  notUp : name ≠ ['.', '.']

theorem IsEntry.fields {name : Text} (entry : IsEntry name) :
    Text.fields (· = '/') name = [name] := by
  apply Text.fields_of_uncut
  intro c member
  apply decide_eq_false
  rintro rfl
  exact entry.unslashed member

theorem parts_join (path name : Text) (entry : IsEntry name) :
    parts (join path name) = parts path ++ [name] := by
  have kept : (!name.isEmpty) = true := by simpa using entry.some
  unfold parts join
  split
  · rename_i closed
    rw [Bool.or_eq_true, List.isEmpty_iff, decide_eq_true_eq] at closed
    rcases closed with rfl | ends
    · rw [List.nil_append, entry.fields]
      simp [Text.fields, kept]
    · obtain ⟨front, rfl⟩ := List.getLast?_eq_some_iff.mp ends
      have slash := Text.fields_append (· = '/') front [] '/' (by decide)
      rw [List.append_assoc, List.singleton_append,
        Text.fields_append (· = '/') front name '/' (by decide), slash, entry.fields]
      simp [Text.fields, kept]
  · rw [List.append_assoc, List.singleton_append,
      Text.fields_append (· = '/') path name '/' (by decide), entry.fields]
    simp [kept]

theorem starts_with_slash (path : Text) :
    Text.startsWith path ['/'] = true ↔ path.head? = some '/' := by
  rw [Text.starts_with_iff]
  cases path with
  | nil => simp
  | cons c rest =>
      simp only [List.cons_append, List.nil_append, List.cons.injEq, List.head?_cons,
        Option.some.injEq]
      constructor
      · rintro ⟨_, same, -⟩
        exact same
      · intro same
        exact ⟨rest, same, rfl⟩

theorem starts_with_join (path name : Text) (entry : IsEntry name) :
    Text.startsWith (join path name) ['/'] = Text.startsWith path ['/'] := by
  rw [Bool.eq_iff_iff, starts_with_slash, starts_with_slash]
  unfold join
  cases path with
  | nil =>
      cases name with
      | nil => exact absurd rfl entry.some
      | cons c rest =>
          have other : c ≠ '/' := by
            rintro rfl
            exact entry.unslashed List.mem_cons_self
          simpa using other
  | cons c rest => split <;> simp

/-- A name below a path is one more component. -/
theorem components_join (path name : Text) (entry : IsEntry name) :
    components (join path name) = components path ++ [.name name] := by
  have first : firstComponent (join path name) = firstComponent path := by
    unfold firstComponent
    rw [starts_with_join path name entry, parts_join path name entry]
    cases parts path with
    | nil => simp [entry.notHere]
    | cons part rest => rfl
  have last : names (join path name) = names path ++ [name] := by
    unfold names
    rw [parts_join path name entry]
    simp [entry.notHere]
  have own : Component.ofName name = .name name := if_neg entry.notUp
  unfold components
  rw [first, last, List.map_append, List.map_singleton, own, List.append_assoc]

/-- Component by component, the first path comes before the second. -/
def Before (left right : Text) : Prop := components left < components right

theorem insert_perm (path : Text) (paths : List Text) :
    (insert path paths).Perm (path :: paths) := by
  induction paths with
  | nil => exact List.Perm.refl _
  | cons first rest ih =>
      rw [insert]
      split
      · exact (ih.cons first).trans (List.Perm.swap path first rest)
      · exact List.Perm.refl _

theorem sort_perm (paths : List Text) : (sort paths).Perm paths := by
  unfold sort
  induction paths with
  | nil => exact List.Perm.refl _
  | cons first rest ih =>
      rw [List.foldr_cons]
      exact (insert_perm first _).trans (ih.cons first)

theorem insert_ascends (path : Text) (paths : List Text) (ascends : paths.Pairwise Before)
    (new : ∀ other ∈ paths, components path ≠ components other) :
    (insert path paths).Pairwise Before := by
  induction paths with
  | nil => exact List.pairwise_singleton _ path
  | cons first rest ih =>
      obtain ⟨below, restAscends⟩ := List.pairwise_cons.mp ascends
      obtain ⟨newFirst, newRest⟩ := List.forall_mem_cons.mp new
      rw [insert]
      split
      · rename_i behind
        refine List.pairwise_cons.mpr ⟨?_, ih restAscends newRest⟩
        intro other member
        rcases List.mem_cons.mp ((insert_perm path rest).mem_iff.mp member) with same | later
        · rw [same]
          exact behind
        · exact below other later
      · rename_i notBehind
        have before : components path < components first := by
          rcases Std.lt_trichotomy (components path) (components first) with less | same | more
          · exact less
          · exact absurd same newFirst
          · exact absurd more notBehind
        refine List.pairwise_cons.mpr ⟨List.forall_mem_cons.mpr ⟨before, ?_⟩, ascends⟩
        intro other later
        exact List.lt_trans before (below other later)

theorem sort_ascends (paths : List Text)
    (distinct : paths.Pairwise fun left right => components left ≠ components right) :
    (sort paths).Pairwise Before := by
  induction paths with
  | nil => exact List.Pairwise.nil
  | cons first rest ih =>
      obtain ⟨new, restDistinct⟩ := List.pairwise_cons.mp distinct
      apply insert_ascends first _ (ih restDistinct)
      intro other member
      exact new other ((sort_perm rest).mem_iff.mp member)

/-- Paths in order are given by which paths there are. -/
theorem ascending_eq_of_same_members (left right : List Text) (leftAscends : left.Pairwise Before)
    (rightAscends : right.Pairwise Before) (same : ∀ path, path ∈ left ↔ path ∈ right) :
    left = right := by
  have irreflexive : Std.Irrefl Before := ⟨fun path less => List.lt_irrefl _ less⟩
  have antisymmetric : Std.Antisymm Before :=
    ⟨fun path other less more => absurd (List.lt_trans less more) (List.lt_irrefl _)⟩
  exact List.Pairwise.eq_of_mem_iff leftAscends rightAscends same

end Path
end DockerfileAudit
