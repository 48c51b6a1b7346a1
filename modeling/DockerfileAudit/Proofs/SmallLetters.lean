import DockerfileAudit.Text.Case
import Mathlib.Data.Nat.Basic

/-!
Making a text small a second time changes nothing, and letters never become blanks. Both come from
facts about the table of runs that compare ends of runs and parities, so that no character is looked
at by itself.
-/
set_option autoImplicit false

namespace DockerfileAudit
namespace CaseRun

def targetEnd (run : CaseRun) : Nat := run.target + (run.last - run.first)

/-- All codes of the run are odd, or all are even. -/
def keepsParity (run : CaseRun) : Bool :=
  Nat.beq (run.step % 2) 0 || Nat.beq run.first run.last

/-- A test that no code made by the first run is covered by the second: they lie apart, or they
differ in parity. -/
def clearOf (run other : CaseRun) : Bool :=
  -- All pairs of runs are tested by evaluation, so these are comparisons that the kernel computes.
  Nat.blt run.targetEnd other.first || Nat.blt other.last run.target ||
    (run.keepsParity && other.keepsParity && Nat.beq ((run.target + other.first) % 2) 1)

def clearOfRange (run : CaseRun) (range : Nat × Nat) : Bool :=
  Nat.blt run.targetEnd range.1 || Nat.blt range.2 run.target

theorem covers_iff (run : CaseRun) (code : Nat) :
    run.covers code = true ↔
      run.first ≤ code ∧ code ≤ run.last ∧ (code - run.first) % run.step = 0 := by
  simp [covers, and_assoc]

theorem even_distance (run : CaseRun) (code : Nat) (covered : run.covers code = true)
    (parity : run.keepsParity = true) : (code - run.first) % 2 = 0 := by
  obtain ⟨low, high, distance⟩ := (covers_iff run code).mp covered
  simp only [keepsParity, Bool.or_eq_true, Nat.beq_eq] at parity
  rcases parity with even | single
  · have whole : run.step ∣ code - run.first := Nat.dvd_of_mod_eq_zero distance
    exact Nat.mod_eq_zero_of_dvd (Nat.dvd_trans (Nat.dvd_of_mod_eq_zero even) whole)
  · have distanceZero : code - run.first = 0 := by omega
    rw [distanceZero]

theorem clear_of_not_covers (run other : CaseRun) (code : Nat) (clear : run.clearOf other = true)
    (covered : run.covers code = true) :
    other.covers (run.target + (code - run.first)) = false := by
  rw [Bool.eq_false_iff]
  intro again
  have ends := (covers_iff run code).mp covered
  have otherEnds := (covers_iff other _).mp again
  simp only [clearOf, targetEnd, Bool.or_eq_true, Bool.and_eq_true, Nat.blt_eq, Nat.beq_eq]
    at clear
  rcases clear with apart | ⟨⟨parity, otherParity⟩, different⟩
  · omega
  · have even := even_distance run code covered parity
    have otherEven := even_distance other _ again otherParity
    omega

theorem apply_cases (code : Nat) (runs : List CaseRun) :
    (apply code runs = code ∧ ∀ run ∈ runs, run.covers code = false) ∨
      ∃ run ∈ runs, run.covers code = true ∧
        apply code runs = run.target + (code - run.first) := by
  induction runs with
  | nil => exact Or.inl ⟨rfl, by simp⟩
  | cons run rest ih =>
      by_cases covered : run.covers code = true
      · exact Or.inr ⟨run, by simp, covered, by simp [apply, covered]⟩
      · have missed : run.covers code = false := by simpa using covered
        rcases ih with ⟨stays, uncovered⟩ | ⟨other, member, found, moved⟩
        · exact Or.inl ⟨by simp [apply, missed, stays],
            List.forall_mem_cons.mpr ⟨missed, uncovered⟩⟩
        · exact Or.inr ⟨other, by simp [member], found, by simp [apply, missed, moved]⟩

theorem apply_of_uncovered (code : Nat) (runs : List CaseRun)
    (uncovered : ∀ run ∈ runs, run.covers code = false) : apply code runs = code := by
  rcases apply_cases code runs with ⟨stays, _⟩ | ⟨run, member, covered, _⟩
  · exact stays
  · rw [uncovered run member] at covered
    simp at covered

theorem lower_tail_beyond : (lower.tail.all fun run => Nat.ble 128 run.first) = true := by
  decide +kernel

theorem apply_lower_ascii (code : Nat) (ascii : code < 128) :
    apply code lower = if 0x41 ≤ code ∧ code ≤ 0x5A then code + 32 else code := by
  have rest : apply code lower.tail = code := by
    apply apply_of_uncovered
    intro run member
    have beyond := Nat.ble_eq.mp (List.all_eq_true.mp lower_tail_beyond run member)
    rw [Bool.eq_false_iff, Ne, covers_iff]
    omega
  have capitals : lower = ⟨0x41, 0x5A, 1, 0x61⟩ :: lower.tail := rfl
  rw [capitals, apply, rest]
  simp only [covers_iff, Nat.mod_one, and_true]
  split
  · omega
  · rfl

theorem lower_clear : (lower.all fun run => lower.all run.clearOf) = true := by
  decide +kernel

/-- Blanks, the capital I with a dot and the capital sigma are not small letters. -/
theorem lower_clear_ranges :
    (lower.all fun run =>
      ((0x130, 0x130) :: (0x3A3, 0x3A3) :: CodeSet.whiteSpace.ranges).all run.clearOfRange) =
      true := by
  decide +kernel

theorem apply_lower_twice (code : Nat) :
    apply (apply code lower) lower = apply code lower := by
  rcases apply_cases code lower with ⟨stays, _⟩ | ⟨run, member, covered, moved⟩
  · rw [stays, stays]
  · apply apply_of_uncovered
    intro other otherMember
    have clear := List.all_eq_true.mp (List.all_eq_true.mp lower_clear run member) other otherMember
    rw [moved]
    exact clear_of_not_covers run other code clear covered

theorem apply_lower_outside (code : Nat) (range : Nat × Nat)
    (listed : range ∈ (0x130, 0x130) :: (0x3A3, 0x3A3) :: CodeSet.whiteSpace.ranges)
    (outside : ¬(range.1 ≤ code ∧ code ≤ range.2)) :
    ¬(range.1 ≤ apply code lower ∧ apply code lower ≤ range.2) := by
  rcases apply_cases code lower with ⟨stays, _⟩ | ⟨run, member, covered, moved⟩
  · rw [stays]; exact outside
  · have clear := List.all_eq_true.mp
      (List.all_eq_true.mp lower_clear_ranges run member) range listed
    simp only [clearOfRange, targetEnd, Bool.or_eq_true, Nat.blt_eq] at clear
    have ends := (covers_iff run code).mp covered
    rw [moved]
    omega

end CaseRun

namespace CodeSet

theorem in_ranges_iff (code : Nat) (ranges : List (Nat × Nat))
    (ascending : ranges.Pairwise fun left right => left.1 ≤ right.1) :
    inRanges code ranges = true ↔ ∃ range ∈ ranges, range.1 ≤ code ∧ code ≤ range.2 := by
  induction ranges with
  | nil => simp [inRanges]
  | cons range rest ih =>
      obtain ⟨low, high⟩ := range
      obtain ⟨below, restAscending⟩ := List.pairwise_cons.mp ascending
      by_cases before : code < low
      · simp only [inRanges, if_pos before, Bool.false_eq_true, false_iff]
        rintro ⟨other, member, ends⟩
        rcases List.mem_cons.mp member with rfl | later
        · simp only at ends; omega
        · have order := below other later
          simp only at order; omega
      · by_cases inside : code ≤ high
        · simp only [inRanges, if_neg before, if_pos inside, true_iff]
          exact ⟨(low, high), by simp, by simp only; omega⟩
        · simp only [inRanges, if_neg before, if_neg inside, ih restAscending]
          constructor
          · rintro ⟨other, member, ends⟩
            exact ⟨other, by simp [member], ends⟩
          · rintro ⟨other, member, ends⟩
            rcases List.mem_cons.mp member with rfl | later
            · simp only at ends; omega
            · exact ⟨other, later, ends⟩

theorem white_space_contains_iff (code : Nat) :
    whiteSpace.contains code = true ↔
      ∃ range ∈ whiteSpace.ranges, range.1 ≤ code ∧ code ≤ range.2 :=
  in_ranges_iff code whiteSpace.ranges (by decide)

end CodeSet

namespace Text

/-- A character that a text keeps when it is made small, whatever stands beside it. -/
def Small (c : Char) : Prop := c ≠ capitalSigma ∧ lowerChar c = [c]

instance : DecidablePred Small := fun c =>
  inferInstanceAs (Decidable (c ≠ capitalSigma ∧ lowerChar c = [c]))

theorem lower_after_of_small (before text : Text) (small : ∀ c ∈ text, Small c) :
    lowerAfter before text = text := by
  induction text generalizing before with
  | nil => rfl
  | cons c rest ih =>
      obtain ⟨noSigma, keeps⟩ := small c (by simp)
      rw [lowerAfter, if_neg noSigma, keeps, ih _ fun d member => small d (by simp [member])]
      rfl

theorem to_nat_of_nat (code : Nat) :
    (Char.ofNat code).toNat = code ∨ Char.ofNat code = Char.ofNat 0 := by
  by_cases valid : code.isValidChar
  · exact Or.inl (by rw [Char.ofNat, dif_pos valid]; rfl)
  · exact Or.inr (by rw [Char.ofNat, dif_neg valid]; rfl)

theorem lower_char_cases (c : Char) :
    lowerChar c = ['i', Char.ofNat 0x307] ∨
      c.toNat ≠ 0x130 ∧
        lowerChar c = [Char.ofNat (CaseRun.apply c.toNat CaseRun.lower)] := by
  unfold lowerChar
  split
  · exact Or.inl rfl
  · rename_i other
    exact Or.inr ⟨other, rfl⟩

theorem ascii_capital_iff (c : Char) :
    'A' ≤ c ∧ c ≤ 'Z' ↔ 0x41 ≤ c.toNat ∧ c.toNat ≤ 0x5A := by
  simp only [Char.le_def, UInt32.le_iff_toNat_le]
  rfl

theorem lower_char_ascii (c : Char) (ascii : c.toNat < 128) : lowerChar c = [asciiLower c] := by
  rw [lowerChar, if_neg (by omega), CaseRun.apply_lower_ascii c.toNat ascii, asciiLower]
  simp only [ascii_capital_iff]
  split
  · rfl
  · rw [Char.ofNat_toNat]

theorem small_null : Small (Char.ofNat 0) := by decide +kernel

theorem small_of_nat_apply (code : Nat) (noDot : code ≠ 0x130) (noSigma : code ≠ 0x3A3) :
    Small (Char.ofNat (CaseRun.apply code CaseRun.lower)) := by
  rcases to_nat_of_nat (CaseRun.apply code CaseRun.lower) with same | null
  · have dotFree := CaseRun.apply_lower_outside code (0x130, 0x130) (by simp) (by simp; omega)
    have sigmaFree := CaseRun.apply_lower_outside code (0x3A3, 0x3A3) (by simp) (by simp; omega)
    simp only at dotFree sigmaFree
    refine ⟨?_, ?_⟩
    · intro sigma
      have value : CaseRun.apply code CaseRun.lower = 0x3A3 := by rw [← same, sigma]; rfl
      omega
    · rw [lowerChar, same, if_neg (by omega), CaseRun.apply_lower_twice]
  · rw [null]; exact small_null

theorem small_of_mem_lower_char (c d : Char) (noSigma : c ≠ capitalSigma)
    (member : d ∈ lowerChar c) : Small d := by
  rcases lower_char_cases c with dotted | ⟨noDot, single⟩
  · rw [dotted] at member
    simp only [List.mem_cons, List.not_mem_nil, or_false] at member
    rcases member with rfl | rfl
    · decide +kernel
    · decide +kernel
  · rw [single, List.mem_singleton] at member
    rw [member]
    apply small_of_nat_apply c.toNat noDot
    intro sigma
    apply noSigma
    rw [← Char.ofNat_toNat c, sigma]
    rfl

theorem lower_sigma_cases (before after : Text) :
    lowerSigma before after = Char.ofNat 0x3C2 ∨ lowerSigma before after = Char.ofNat 0x3C3 := by
  unfold lowerSigma
  split
  · exact Or.inl rfl
  · exact Or.inr rfl

theorem mem_lower_after (before text : Text) (d : Char) (member : d ∈ lowerAfter before text) :
    (d = Char.ofNat 0x3C2 ∨ d = Char.ofNat 0x3C3) ∨
      ∃ c ∈ text, c ≠ capitalSigma ∧ d ∈ lowerChar c := by
  induction text generalizing before with
  | nil => simp [lowerAfter] at member
  | cons c rest ih =>
      rw [lowerAfter, List.mem_append] at member
      rcases member with here | later
      · by_cases sigma : c = capitalSigma
        · rw [if_pos sigma, List.mem_singleton] at here
          rw [here]
          exact Or.inl (lower_sigma_cases before rest)
        · rw [if_neg sigma] at here
          exact Or.inr ⟨c, by simp, sigma, here⟩
      · rcases ih _ later with sigma | ⟨e, there, noSigma, made⟩
        · exact Or.inl sigma
        · exact Or.inr ⟨e, by simp [there], noSigma, made⟩

theorem small_of_mem_lower (text : Text) (d : Char) (member : d ∈ lower text) : Small d := by
  rcases mem_lower_after [] text d member with (final | inner) | ⟨c, _, noSigma, made⟩
  · rw [final]; decide +kernel
  · rw [inner]; decide +kernel
  · exact small_of_mem_lower_char c d noSigma made

/-- Small texts stay as they are: the neighbours that decide about a sigma no longer matter, for no
capital sigma is left. -/
theorem lower_lower (text : Text) : lower (lower text) = lower text :=
  lower_after_of_small [] (lower text) (small_of_mem_lower text)

theorem unblank_of_nat_apply (code : Nat) (unblank : CodeSet.whiteSpace.contains code = false) :
    isBlank (Char.ofNat (CaseRun.apply code CaseRun.lower)) = false := by
  rcases to_nat_of_nat (CaseRun.apply code CaseRun.lower) with same | null
  · rw [isBlank, same, Bool.eq_false_iff]
    intro blank
    obtain ⟨range, member, ends⟩ := (CodeSet.white_space_contains_iff _).mp blank
    refine CaseRun.apply_lower_outside code range (by simp [member]) ?_ ends
    intro inside
    rw [(CodeSet.white_space_contains_iff code).mpr ⟨range, member, inside⟩] at unblank
    simp at unblank
  · rw [null]; decide

theorem unblank_of_mem_lower_char (c d : Char) (unblank : isBlank c = false)
    (member : d ∈ lowerChar c) : isBlank d = false := by
  rcases lower_char_cases c with dotted | ⟨_, single⟩
  · rw [dotted] at member
    simp only [List.mem_cons, List.not_mem_nil, or_false] at member
    rcases member with rfl | rfl
    · decide
    · decide
  · rw [single, List.mem_singleton] at member
    rw [member]
    exact unblank_of_nat_apply c.toNat unblank

theorem unblank_of_mem_lower (text : Text) (unblank : ∀ c ∈ text, isBlank c = false) (d : Char)
    (member : d ∈ lower text) : isBlank d = false := by
  rcases mem_lower_after [] text d member with (final | inner) | ⟨c, there, _, made⟩
  · rw [final]; decide
  · rw [inner]; decide
  · exact unblank_of_mem_lower_char c d (unblank c there) made

theorem lower_char_ne_nil (c : Char) : lowerChar c ≠ [] := by
  rcases lower_char_cases c with dotted | ⟨_, single⟩
  · simp [dotted]
  · simp [single]

theorem lower_eq_nil_iff (text : Text) : lower text = [] ↔ text = [] := by
  cases text with
  | nil => simp [lower, lowerAfter]
  | cons c rest =>
      by_cases sigma : c = capitalSigma
      · simp [lower, lowerAfter, sigma]
      · simp [lower, lowerAfter, sigma, lower_char_ne_nil]

theorem exists_unblank_lower_after (before text : Text) (c : Char) (member : c ∈ text)
    (unblank : isBlank c = false) : ∃ d ∈ lowerAfter before text, isBlank d = false := by
  induction text generalizing before with
  | nil => simp at member
  | cons first rest ih =>
      rw [lowerAfter]
      rcases List.mem_cons.mp member with rfl | later
      · by_cases sigma : c = capitalSigma
        · refine ⟨lowerSigma before rest, by simp [sigma], ?_⟩
          rcases lower_sigma_cases before rest with final | inner
          · rw [final]; decide
          · rw [inner]; decide
        · obtain ⟨d, made⟩ := List.exists_mem_of_ne_nil _ (lower_char_ne_nil c)
          exact ⟨d, by simp [sigma, made], unblank_of_mem_lower_char c d unblank made⟩
      · obtain ⟨d, there, visible⟩ := ih (first :: before) later
        exact ⟨d, List.mem_append_right _ there, visible⟩

end Text
end DockerfileAudit
