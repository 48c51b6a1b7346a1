import DockerfileAudit.Proofs.SmallLetters

/-!
A set that is closed under letter case holds exactly the characters that fold like one of its own.
The closure goes through the table of foldings twice, from characters to their folded forms and
back, so what counts is that no code has two foldings and that a folded form folds to itself.
-/
set_option autoImplicit false

namespace DockerfileAudit
namespace CodeSet

/-- Ranges ascend with gaps between them, and none is empty. -/
structure Ordered (set : CodeSet) : Prop where
  ascending : set.ranges.Pairwise fun left right => left.2 + 1 < right.1
  filled : ∀ range ∈ set.ranges, range.1 ≤ range.2

instance : DecidablePred Ordered := fun set =>
  decidable_of_iff
    ((set.ranges.Pairwise fun left right => left.2 + 1 < right.1) ∧
      ∀ range ∈ set.ranges, range.1 ≤ range.2)
    ⟨fun both => ⟨both.1, both.2⟩, fun ordered => ⟨ordered.ascending, ordered.filled⟩⟩

theorem Ordered.contains_iff {set : CodeSet} (ordered : set.Ordered) (code : Nat) :
    set.contains code = true ↔ ∃ range ∈ set.ranges, range.1 ≤ code ∧ code ≤ range.2 := by
  apply in_ranges_iff
  apply ordered.ascending.imp_of_mem
  intro left right leftMember _ apart
  have filled := ordered.filled left leftMember
  omega

theorem ordered_single (code : Nat) : (single code).Ordered :=
  ⟨List.pairwise_singleton _ _, by simp [single]⟩

theorem contains_single (code other : Nat) :
    (single code).contains other = true ↔ other = code := by
  rw [(ordered_single code).contains_iff]
  simp only [single, List.mem_singleton, exists_eq_left]
  omega

/-- Insertion adds the range; a range that it absorbs touches it, so nothing else comes in between.
-/
theorem mem_insert_range (low high code : Nat) (ranges : List (Nat × Nat)) (nonempty : low ≤ high)
    (filled : ∀ range ∈ ranges, range.1 ≤ range.2) :
    (∃ range ∈ insertRange low high ranges, range.1 ≤ code ∧ code ≤ range.2) ↔
      (low ≤ code ∧ code ≤ high) ∨ ∃ range ∈ ranges, range.1 ≤ code ∧ code ≤ range.2 := by
  fun_induction insertRange low high ranges with
  | case1 low high => simp
  | case2 low high a b rest below => simp
  | case3 low high a b rest notBelow above ih =>
      have rest_filled := (List.forall_mem_cons.mp filled).2
      simp only [List.mem_cons, exists_eq_or_imp, ih nonempty rest_filled]
      exact or_left_comm
  | case4 low high a b rest notBelow notAbove ih =>
      obtain ⟨first_filled, rest_filled⟩ := List.forall_mem_cons.mp filled
      simp only at first_filled
      rw [ih (by omega) rest_filled]
      simp only [List.mem_cons, exists_eq_or_imp, ← or_assoc]
      apply or_congr_left
      omega

theorem filled_insert_range (low high : Nat) (ranges : List (Nat × Nat)) (nonempty : low ≤ high)
    (filled : ∀ range ∈ ranges, range.1 ≤ range.2) :
    ∀ range ∈ insertRange low high ranges, range.1 ≤ range.2 := by
  fun_induction insertRange low high ranges with
  | case1 low high => simpa using nonempty
  | case2 low high a b rest below => exact List.forall_mem_cons.mpr ⟨nonempty, filled⟩
  | case3 low high a b rest notBelow above ih =>
      obtain ⟨first_filled, rest_filled⟩ := List.forall_mem_cons.mp filled
      exact List.forall_mem_cons.mpr ⟨first_filled, ih nonempty rest_filled⟩
  | case4 low high a b rest notBelow notAbove ih =>
      exact ih (by omega) (List.forall_mem_cons.mp filled).2

theorem le_insert_range (bound low high : Nat) (ranges : List (Nat × Nat)) (below : bound ≤ low)
    (bounded : ∀ range ∈ ranges, bound ≤ range.1) :
    ∀ range ∈ insertRange low high ranges, bound ≤ range.1 := by
  fun_induction insertRange low high ranges with
  | case1 low high => simpa using below
  | case2 low high a b rest apart => exact List.forall_mem_cons.mpr ⟨below, bounded⟩
  | case3 low high a b rest notBelow above ih =>
      obtain ⟨first_bounded, rest_bounded⟩ := List.forall_mem_cons.mp bounded
      exact List.forall_mem_cons.mpr ⟨first_bounded, ih below rest_bounded⟩
  | case4 low high a b rest notBelow notAbove ih =>
      obtain ⟨first_bounded, rest_bounded⟩ := List.forall_mem_cons.mp bounded
      exact ih (Nat.le_min.mpr ⟨below, first_bounded⟩) rest_bounded

theorem ascending_insert_range (low high : Nat) (ranges : List (Nat × Nat)) (nonempty : low ≤ high)
    (ascending : ranges.Pairwise fun left right => left.2 + 1 < right.1)
    (filled : ∀ range ∈ ranges, range.1 ≤ range.2) :
    (insertRange low high ranges).Pairwise fun left right => left.2 + 1 < right.1 := by
  fun_induction insertRange low high ranges with
  | case1 low high => exact List.pairwise_singleton _ _
  | case2 low high a b rest below =>
      obtain ⟨above, -⟩ := List.pairwise_cons.mp ascending
      obtain ⟨first_filled, -⟩ := List.forall_mem_cons.mp filled
      refine List.pairwise_cons.mpr ⟨List.forall_mem_cons.mpr ⟨below, ?_⟩, ascending⟩
      intro range later
      have order := above range later
      simp only at order first_filled ⊢
      omega
  | case3 low high a b rest notBelow apart ih =>
      obtain ⟨above, rest_ascending⟩ := List.pairwise_cons.mp ascending
      obtain ⟨first_filled, rest_filled⟩ := List.forall_mem_cons.mp filled
      refine List.pairwise_cons.mpr ⟨?_, ih nonempty rest_ascending rest_filled⟩
      exact le_insert_range (b + 2) low high rest apart above
  | case4 low high a b rest notBelow notAbove ih =>
      exact ih (by omega) (List.pairwise_cons.mp ascending).2 (List.forall_mem_cons.mp filled).2

theorem Ordered.insert {set : CodeSet} (ordered : set.Ordered) (low high : Nat)
    (nonempty : low ≤ high) : (set.insert low high).Ordered :=
  ⟨ascending_insert_range low high set.ranges nonempty ordered.ascending ordered.filled,
    filled_insert_range low high set.ranges nonempty ordered.filled⟩

theorem Ordered.contains_insert {set : CodeSet} (ordered : set.Ordered) (low high code : Nat)
    (nonempty : low ≤ high) :
    (set.insert low high).contains code = true ↔
      (low ≤ code ∧ code ≤ high) ∨ set.contains code = true := by
  rw [(ordered.insert low high nonempty).contains_iff, ordered.contains_iff]
  exact mem_insert_range low high code set.ranges nonempty ordered.filled

theorem Ordered.tail {range : Nat × Nat} {ranges : List (Nat × Nat)}
    (ordered : Ordered ⟨range :: ranges⟩) : Ordered ⟨ranges⟩ :=
  ⟨(List.pairwise_cons.mp ordered.ascending).2, (List.forall_mem_cons.mp ordered.filled).2⟩

theorem Ordered.contains_cons {low high : Nat} {ranges : List (Nat × Nat)}
    (ordered : Ordered ⟨(low, high) :: ranges⟩) (code : Nat) :
    contains ⟨(low, high) :: ranges⟩ code = true ↔
      (low ≤ code ∧ code ≤ high) ∨ contains ⟨ranges⟩ code = true := by
  rw [ordered.contains_iff, ordered.tail.contains_iff]
  simp only [List.mem_cons, exists_eq_or_imp]

theorem Ordered.above {low high : Nat} {ranges : List (Nat × Nat)}
    (ordered : Ordered ⟨(low, high) :: ranges⟩) (code : Nat)
    (member : contains ⟨ranges⟩ code = true) : high + 1 < code := by
  obtain ⟨range, inside, bounds⟩ := (ordered.tail.contains_iff code).mp member
  have apart := (List.pairwise_cons.mp ordered.ascending).1 range inside
  simp only at apart
  omega

theorem Ordered.head_le {low high low' high' : Nat} {ranges ranges' : List (Nat × Nat)}
    (left : Ordered ⟨(low, high) :: ranges⟩) (right : Ordered ⟨(low', high') :: ranges'⟩)
    (included : ∀ code, contains ⟨(low, high) :: ranges⟩ code = true →
      contains ⟨(low', high') :: ranges'⟩ code = true) :
    low' ≤ low ∧ (low = low' → high ≤ high') := by
  have filled : low ≤ high := (List.forall_mem_cons.mp left.filled).1
  have filled' : low' ≤ high' := (List.forall_mem_cons.mp right.filled).1
  constructor
  · have first := included low ((left.contains_cons low).mpr (Or.inl ⟨Nat.le_refl low, filled⟩))
    rcases (right.contains_cons low).mp first with here | later
    · exact here.1
    · have above := right.above low later
      omega
  · intro same
    apply Nat.le_of_not_lt
    intro longer
    have next := included (high' + 1) ((left.contains_cons _).mpr (Or.inl (by omega)))
    rcases (right.contains_cons _).mp next with here | later
    · omega
    · have above := right.above _ later
      omega

theorem Ordered.ext {left right : CodeSet} (leftOrdered : left.Ordered)
    (rightOrdered : right.Ordered)
    (same : ∀ code, left.contains code = true ↔ right.contains code = true) : left = right := by
  obtain ⟨left⟩ := left
  obtain ⟨right⟩ := right
  rw [mk.injEq]
  induction left generalizing right with
  | nil =>
      cases right with
      | nil => rfl
      | cons range rest =>
          have filled := (List.forall_mem_cons.mp rightOrdered.filled).1
          have first := (rightOrdered.contains_cons range.1).mpr (Or.inl ⟨Nat.le_refl _, filled⟩)
          cases (same range.1).mpr first
  | cons range rest ih =>
      obtain ⟨low, high⟩ := range
      cases right with
      | nil =>
          have filled := (List.forall_mem_cons.mp leftOrdered.filled).1
          have first := (leftOrdered.contains_cons low).mpr (Or.inl ⟨Nat.le_refl _, filled⟩)
          cases (same low).mp first
      | cons range' rest' =>
          obtain ⟨low', high'⟩ := range'
          have forward := leftOrdered.head_le rightOrdered fun code => (same code).mp
          have backward := rightOrdered.head_le leftOrdered fun code => (same code).mpr
          obtain rfl : low = low' := by omega
          obtain rfl : high = high' := Nat.le_antisymm (forward.2 rfl) (backward.2 rfl)
          rw [ih leftOrdered.tail rest' rightOrdered.tail]
          intro code
          constructor
          · intro member
            have above := leftOrdered.above code member
            have other := (same code).mp ((leftOrdered.contains_cons code).mpr (Or.inr member))
            rcases (rightOrdered.contains_cons code).mp other with here | later
            · omega
            · exact later
          · intro member
            have above := rightOrdered.above code member
            have other := (same code).mpr ((rightOrdered.contains_cons code).mpr (Or.inr member))
            rcases (leftOrdered.contains_cons code).mp other with here | later
            · omega
            · exact later

section

variable {Pair : Type} (chosen : Pair → Bool) (added : Pair → Nat)

def grow (set : CodeSet) (pairs : List Pair) : CodeSet :=
  pairs.foldr
    (fun pair grown => if chosen pair then grown.insert (added pair) (added pair) else grown) set

theorem Ordered.grow {set : CodeSet} (ordered : set.Ordered) (pairs : List Pair) :
    (CodeSet.grow chosen added set pairs).Ordered := by
  induction pairs with
  | nil => exact ordered
  | cons pair rest ih =>
      rw [CodeSet.grow, List.foldr_cons]
      split
      · exact ih.insert _ _ (Nat.le_refl _)
      · exact ih

theorem Ordered.contains_grow {set : CodeSet} (ordered : set.Ordered) (pairs : List Pair)
    (code : Nat) :
    (CodeSet.grow chosen added set pairs).contains code = true ↔
      set.contains code = true ∨ ∃ pair ∈ pairs, chosen pair = true ∧ code = added pair := by
  induction pairs with
  | nil => simp [CodeSet.grow]
  | cons pair rest ih =>
      have rest_ordered := ordered.grow chosen added rest
      rw [CodeSet.grow, List.foldr_cons]
      simp only [List.mem_cons, exists_eq_or_imp]
      split
      · rename_i taken
        refine (rest_ordered.contains_insert _ _ _ (Nat.le_refl _)).trans ?_
        rw [ih, and_comm, ← Nat.le_antisymm_iff, and_iff_right taken]
        exact or_left_comm
      · rename_i left
        refine ih.trans ?_
        simp [left]

end

end CodeSet

namespace CaseRun

/-- A test that no code is covered by both runs: they lie apart, or they differ in parity. -/
def apart (run other : CaseRun) : Bool :=
  Nat.blt run.last other.first || Nat.blt other.last run.first ||
    (run.keepsParity && other.keepsParity && Nat.beq ((run.first + other.first) % 2) 1)

theorem apart_not_covers (run other : CaseRun) (code : Nat) (clear : run.apart other = true)
    (covered : run.covers code = true) : other.covers code = false := by
  rw [Bool.eq_false_iff]
  intro again
  have ends := (covers_iff run code).mp covered
  have otherEnds := (covers_iff other code).mp again
  simp only [apart, Bool.or_eq_true, Bool.and_eq_true, Nat.blt_eq, Nat.beq_eq] at clear
  rcases clear with apart | ⟨⟨parity, otherParity⟩, different⟩
  · omega
  · have even := even_distance run code covered parity
    have otherEven := even_distance other code again otherParity
    omega

def allApart : List CaseRun → Bool
  | [] => true
  | run :: rest => rest.all run.apart && allApart rest

theorem folding_apart : allApart folding = true := by
  decide +kernel

theorem folding_clear : (folding.all fun run => folding.all run.clearOf) = true := by
  decide +kernel

theorem folding_filled : ∀ run ∈ folding, run.first ≤ run.last := by
  decide +kernel

theorem apply_of_covers (code : Nat) (runs : List CaseRun)
    (alone : allApart runs = true) (run : CaseRun) (member : run ∈ runs)
    (covered : run.covers code = true) :
    apply code runs = run.target + (code - run.first) := by
  induction runs with
  | nil => cases member
  | cons first rest ih =>
      rw [allApart, Bool.and_eq_true, List.all_eq_true] at alone
      obtain ⟨clear, rest_alone⟩ := alone
      rcases List.mem_cons.mp member with rfl | later
      · rw [apply, if_pos covered]
      · have missed : ¬first.covers code = true := by
          intro both
          rw [apart_not_covers first run code (clear run later) both] at covered
          cases covered
        rw [apply, if_neg missed, ih rest_alone later]

theorem mem_pairs_from (run : CaseRun) (count : Nat) (pair : Nat × Nat) :
    pair ∈ run.pairsFrom count ↔
      ∃ i < count, pair = (run.first + i * run.step, run.target + i * run.step) := by
  induction count with
  | zero => simp [pairsFrom]
  | succ count ih =>
      rw [pairsFrom, List.mem_append, List.mem_singleton, ih]
      simp only [Nat.lt_succ_iff_lt_or_eq, or_and_right, exists_or, exists_eq_left]

theorem mem_pairs_iff (run : CaseRun) (filled : run.first ≤ run.last) (pair : Nat × Nat) :
    pair ∈ run.pairs ↔
      run.covers pair.1 = true ∧ pair.2 = run.target + (pair.1 - run.first) := by
  rw [pairs, mem_pairs_from, covers_iff]
  constructor
  · rintro ⟨i, few, rfl⟩
    have bound : i * run.step ≤ run.last - run.first :=
      Nat.le_trans (Nat.mul_le_mul_right _ (Nat.le_of_lt_succ few)) (Nat.div_mul_le_self _ _)
    refine ⟨⟨by simp, by simp only; omega, by simp⟩, by simp⟩
  · rintro ⟨⟨low, high, distance⟩, moved⟩
    have whole : (pair.1 - run.first) / run.step * run.step = pair.1 - run.first :=
      Nat.div_mul_cancel (Nat.dvd_of_mod_eq_zero distance)
    refine ⟨(pair.1 - run.first) / run.step, ?_, ?_⟩
    · exact Nat.lt_succ_of_le (Nat.div_le_div_right (by omega))
    · rw [whole, Nat.add_sub_cancel' low, ← moved]

end CaseRun

theorem mem_fold_pairs_iff (pair : Nat × Nat) :
    pair ∈ foldPairs ↔
      (∃ run ∈ CaseRun.folding, run.covers pair.1 = true) ∧ pair.2 = foldCode pair.1 := by
  unfold foldPairs foldCode
  rw [List.mem_flatMap]
  constructor
  · rintro ⟨run, member, listed⟩
    obtain ⟨covered, moved⟩ :=
      (run.mem_pairs_iff (CaseRun.folding_filled run member) pair).mp listed
    rw [CaseRun.apply_of_covers _ _ CaseRun.folding_apart run member covered]
    exact ⟨⟨run, member, covered⟩, moved⟩
  · rintro ⟨⟨run, member, covered⟩, folded⟩
    refine ⟨run, member, (run.mem_pairs_iff (CaseRun.folding_filled run member) pair).mpr ?_⟩
    rw [folded, CaseRun.apply_of_covers _ _ CaseRun.folding_apart run member covered]
    exact ⟨covered, rfl⟩

theorem pair_mem_fold_pairs (code : Nat) (moves : foldCode code ≠ code) :
    (code, foldCode code) ∈ foldPairs := by
  refine (mem_fold_pairs_iff _).mpr ⟨?_, rfl⟩
  rcases CaseRun.apply_cases code CaseRun.folding with ⟨stays, -⟩ | ⟨run, member, covered, -⟩
  · exact absurd stays moves
  · exact ⟨run, member, covered⟩

theorem fold_code_fold_code (code : Nat) : foldCode (foldCode code) = foldCode code := by
  unfold foldCode
  rcases CaseRun.apply_cases code CaseRun.folding with ⟨stays, -⟩ | ⟨run, member, covered, moved⟩
  · rw [stays, stays]
  · apply CaseRun.apply_of_uncovered
    intro other otherMember
    have clear := List.all_eq_true.mp
      (List.all_eq_true.mp CaseRun.folding_clear run member) other otherMember
    rw [moved]
    exact CaseRun.clear_of_not_covers run other code clear covered

/-- The codes that may fold to a code: itself, and what a run would make into it. -/
def unfoldings (code : Nat) : List Nat :=
  code :: CaseRun.folding.filterMap fun run =>
    if Nat.ble run.target code && Nat.ble code run.targetEnd then
      some (run.first + (code - run.target))
    else none

theorem mem_unfoldings (code : Nat) : code ∈ unfoldings (foldCode code) := by
  unfold unfoldings
  rcases CaseRun.apply_cases code CaseRun.folding with ⟨stays, -⟩ | ⟨run, member, covered, moved⟩
  · exact List.mem_cons.mpr (Or.inl stays.symm)
  · refine List.mem_cons_of_mem _ (List.mem_filterMap.mpr ⟨run, member, ?_⟩)
    have ends := (CaseRun.covers_iff run code).mp covered
    have inside : (Nat.ble run.target (foldCode code) && Nat.ble (foldCode code) run.targetEnd) =
        true := by
      simp only [foldCode, moved, CaseRun.targetEnd, Bool.and_eq_true, Nat.ble_eq]
      omega
    rw [if_pos inside, foldCode, moved]
    congr 1
    omega

namespace CodeSet

theorem Ordered.with_folded {set : CodeSet} (ordered : set.Ordered) : set.withFolded.Ordered :=
  ordered.grow (fun pair : Nat × Nat => set.contains pair.1) Prod.snd foldPairs

theorem Ordered.contains_with_folded {set : CodeSet} (ordered : set.Ordered) (code : Nat) :
    set.withFolded.contains code = true ↔
      set.contains code = true ∨ ∃ other, set.contains other = true ∧ code = foldCode other := by
  refine (ordered.contains_grow (fun pair : Nat × Nat => set.contains pair.1) Prod.snd foldPairs
    code).trans ?_
  constructor
  · rintro (here | ⟨pair, listed, member, rfl⟩)
    · exact Or.inl here
    · exact Or.inr ⟨pair.1, member, ((mem_fold_pairs_iff pair).mp listed).2⟩
  · rintro (here | ⟨other, member, rfl⟩)
    · exact Or.inl here
    · by_cases moves : foldCode other = other
      · exact Or.inl (by rwa [moves])
      · exact Or.inr ⟨_, pair_mem_fold_pairs other moves, member, rfl⟩

theorem Ordered.contains_with_unfolded {set : CodeSet} (ordered : set.Ordered) (code : Nat) :
    set.withUnfolded.contains code = true ↔
      set.contains code = true ∨ set.contains (foldCode code) = true := by
  refine (ordered.contains_grow (fun pair : Nat × Nat => set.contains pair.2) Prod.fst foldPairs
    code).trans ?_
  constructor
  · rintro (here | ⟨pair, listed, member, rfl⟩)
    · exact Or.inl here
    · exact Or.inr (by rwa [← ((mem_fold_pairs_iff pair).mp listed).2])
  · rintro (here | folded)
    · exact Or.inl here
    · by_cases moves : foldCode code = code
      · exact Or.inl (by rwa [moves] at folded)
      · exact Or.inr ⟨_, pair_mem_fold_pairs code moves, folded, rfl⟩

theorem Ordered.fold_closed {set : CodeSet} (ordered : set.Ordered) : set.foldClosed.Ordered :=
  ordered.with_folded.grow
    (fun pair : Nat × Nat => set.withFolded.contains pair.2) Prod.fst foldPairs

theorem Ordered.contains_fold_closed {set : CodeSet} (ordered : set.Ordered) (code : Nat) :
    set.foldClosed.contains code = true ↔
      ∃ other, set.contains other = true ∧ foldCode code = foldCode other := by
  unfold CodeSet.foldClosed
  rw [ordered.with_folded.contains_with_unfolded, ordered.contains_with_folded,
    ordered.contains_with_folded]
  constructor
  · rintro ((here | ⟨other, member, rfl⟩) | here | ⟨other, member, folded⟩)
    · exact ⟨code, here, rfl⟩
    · exact ⟨other, member, fold_code_fold_code other⟩
    · exact ⟨foldCode code, here, (fold_code_fold_code code).symm⟩
    · exact ⟨other, member, folded⟩
  · rintro ⟨other, member, folded⟩
    exact Or.inr (Or.inr ⟨other, member, folded⟩)

def ofCodes (codes : List Nat) : CodeSet := ⟨codes.map fun code => (code, code)⟩

theorem Ordered.contains_of_codes {codes : List Nat} (ordered : (ofCodes codes).Ordered)
    (code : Nat) :
    (ofCodes codes).contains code = true ↔ code ∈ codes := by
  rw [ordered.contains_iff]
  constructor
  · rintro ⟨range, member, low, high⟩
    obtain ⟨other, inside, rfl⟩ := List.mem_map.mp member
    exact Nat.le_antisymm low high ▸ inside
  · intro inside
    exact ⟨(code, code), List.mem_map_of_mem inside, Nat.le_refl code, Nat.le_refl code⟩

/-- A test that the second list holds what folds like a member of the first, and nothing else. -/
def closesTo (codes closed : List Nat) : Bool :=
  (codes.all fun code => (unfoldings (foldCode code)).all closed.contains) &&
    closed.all fun code => codes.any fun other => Nat.beq (foldCode code) (foldCode other)

theorem fold_closed_of_codes {codes closed : List Nat} (ordered : (ofCodes codes).Ordered)
    (closedOrdered : (ofCodes closed).Ordered) (tested : closesTo codes closed = true) :
    (ofCodes codes).foldClosed = ofCodes closed := by
  rw [closesTo, Bool.and_eq_true, List.all_eq_true, List.all_eq_true] at tested
  obtain ⟨complete, sound⟩ := tested
  apply ordered.fold_closed.ext closedOrdered
  intro code
  rw [ordered.contains_fold_closed, closedOrdered.contains_of_codes]
  constructor
  · rintro ⟨other, member, folded⟩
    have inside := complete other ((ordered.contains_of_codes other).mp member)
    rw [← folded, List.all_eq_true] at inside
    exact List.contains_iff_mem.mp (inside code (mem_unfoldings code))
  · intro member
    obtain ⟨other, inside, folded⟩ := List.any_eq_true.mp (sound code member)
    exact ⟨other, (ordered.contains_of_codes other).mpr inside, Nat.eq_of_beq_eq_true folded⟩

end CodeSet
end DockerfileAudit
