import DockerfileAudit.Proofs.PackageManagers
import DockerfileAudit.Proofs.PathOrder

/-!
Which files run as root. A user is made small as a whole before it is cut at its colons, by the
rules for all letters, of which some grow and one depends on its neighbours. But no letter becomes a
letter of `root`, a zero or a colon unless it is one already or the capital of one in ASCII. So the
parts are the same, and they name root exactly if they do so without regard to the case of ASCII
letters.
-/
set_option autoImplicit false

namespace DockerfileAudit

namespace Text

/-- The characters that decide whether a user is root. -/
def rootSigns : List Char := ['r', 'o', 't', '0', ':']

theorem code_root_sign : ∀ sign ∈ rootSigns, sign.toNat < 128 := by
  intro sign isSign
  simp only [rootSigns, List.mem_cons, List.not_mem_nil, or_false] at isSign
  rcases isSign with rfl | rfl | rfl | rfl | rfl <;> decide

theorem code_of_root_sign (c : Char) (sign : asciiLower c ∈ rootSigns) : c.toNat < 128 := by
  unfold asciiLower at sign
  split at sign
  · rename_i capital
    have code := (ascii_capital_iff c).mp capital
    omega
  · exact code_root_sign c sign

theorem ascii_lower_eq_colon (c : Char) : asciiLower c = ':' ↔ c = ':' := by
  unfold asciiLower
  split
  · rename_i capital
    have code := (ascii_capital_iff c).mp capital
    have colonCode : ':'.toNat = 58 := rfl
    constructor
    · intro colon
      rcases to_nat_of_nat (c.toNat + 32) with same | null
      · rw [colon] at same
        omega
      · rw [colon] at null
        exact absurd null (by decide)
    · intro colon
      rw [colon] at code
      omega
  · rfl

/-- No run of letters that reaches beyond ASCII makes one of the signs. -/
theorem lower_clear_root_signs :
    (CaseRun.lower.all fun run => Nat.blt run.last 128 ||
      rootSigns.all fun sign => run.clearOfRange (sign.toNat, sign.toNat)) = true := by
  decide +kernel

theorem apply_lower_root_sign (code : Nat) (beyond : 128 ≤ code) (sign : Char)
    (isSign : sign ∈ rootSigns) : CaseRun.apply code CaseRun.lower ≠ sign.toNat := by
  have below := code_root_sign sign isSign
  rcases CaseRun.apply_cases code CaseRun.lower with ⟨stays, _⟩ | ⟨run, member, covered, moved⟩
  · omega
  · have ends := (CaseRun.covers_iff run code).mp covered
    have clear := List.all_eq_true.mp lower_clear_root_signs run member
    simp only [Bool.or_eq_true, Nat.blt_eq] at clear
    rcases clear with short | clear
    · omega
    · have apart := List.all_eq_true.mp clear sign isSign
      simp only [CaseRun.clearOfRange, CaseRun.targetEnd, Bool.or_eq_true, Nat.blt_eq] at apart
      omega

theorem lower_char_beyond_ascii (c : Char) (beyond : 128 ≤ c.toNat) :
    ∀ d ∈ lowerChar c, d ∉ rootSigns := by
  intro d member isSign
  rcases lower_char_cases c with dotted | ⟨_, single⟩
  · rw [dotted] at member
    simp only [List.mem_cons, List.not_mem_nil, or_false] at member
    rcases member with rfl | rfl
    · exact absurd isSign (by decide)
    · exact absurd isSign (by decide)
  · rw [single, List.mem_singleton] at member
    rcases to_nat_of_nat (CaseRun.apply c.toNat CaseRun.lower) with same | null
    · apply apply_lower_root_sign c.toNat beyond d isSign
      rw [← same, ← member]
    · rw [null] at member
      rw [member] at isSign
      exact absurd isSign (by decide)

/-- A text beside its small form, as far as the signs go: each sign, or the capital of one in ASCII,
is made the sign, and every other character is made something without signs. -/
inductive Mirrors : Text → Text → Prop
  | nil : Mirrors [] []
  | sign (c : Char) (text small : Text) (isSign : asciiLower c ∈ rootSigns)
      (later : Mirrors text small) : Mirrors (c :: text) (asciiLower c :: small)
  | other (c : Char) (image text small : Text) (noSign : asciiLower c ∉ rootSigns)
      (nonempty : image ≠ []) (clear : ∀ d ∈ image, d ∉ rootSigns) (later : Mirrors text small) :
      Mirrors (c :: text) (image ++ small)

theorem mirrors_lower_after (before text : Text) : Mirrors text (lowerAfter before text) := by
  induction text generalizing before with
  | nil => exact Mirrors.nil
  | cons c rest ih =>
      rw [lowerAfter]
      by_cases isSign : asciiLower c ∈ rootSigns
      · have ascii := code_of_root_sign c isSign
        have noSigma : c ≠ capitalSigma := by
          intro sigma
          rw [sigma] at ascii
          exact absurd ascii (by decide)
        rw [if_neg noSigma, lower_char_ascii c ascii]
        exact Mirrors.sign c rest _ isSign (ih (c :: before))
      · by_cases sigma : c = capitalSigma
        · rw [if_pos sigma]
          apply Mirrors.other c _ rest _ isSign (by simp) _ (ih (c :: before))
          rw [List.forall_mem_singleton]
          rcases lower_sigma_cases before rest with final | inner
          · rw [final]
            decide
          · rw [inner]
            decide
        · rw [if_neg sigma]
          apply Mirrors.other c _ rest _ isSign (lower_char_ne_nil c) _ (ih (c :: before))
          by_cases ascii : c.toNat < 128
          · rw [lower_char_ascii c ascii, List.forall_mem_singleton]
            exact isSign
          · exact lower_char_beyond_ascii c (by omega)

/-- A name that is made of signs is the small form exactly of those texts that differ from it at
most in the case of ASCII letters. -/
theorem Mirrors.eq_iff {text small : Text} (mirrors : Mirrors text small) (name : Text)
    (signs : ∀ c ∈ name, c ∈ rootSigns) : small = name ↔ text.map asciiLower = name := by
  induction mirrors generalizing name with
  | nil => rfl
  | sign c text small isSign later ih =>
      cases name with
      | nil => simp
      | cons d name =>
          rw [List.map_cons, List.cons.injEq, List.cons.injEq,
            ih name fun e member => signs e (by simp [member])]
  | other c image text small noSign nonempty clear later ih =>
      obtain ⟨e, more, rfl⟩ := List.exists_cons_of_ne_nil nonempty
      constructor
      · intro same
        exact absurd (signs e (by simp [← same])) (clear e (by simp))
      · intro same
        exact absurd (signs (asciiLower c) (by simp [← same])) noSign

/-- A character that does not cut, and is made something that does not cut, belongs to the first
part. -/
theorem forall₂_fields_extend (c : Char) (image text small : Text) (uncut : c ≠ ':')
    (imageUncut : ∀ d ∈ image, d ≠ ':')
    (grows : ∀ part smaller, Mirrors part smaller → Mirrors (c :: part) (image ++ smaller))
    (later : List.Forall₂ Mirrors (fields (· = ':') text) (fields (· = ':') small)) :
    List.Forall₂ Mirrors (fields (· = ':') (c :: text)) (fields (· = ':') (image ++ small)) := by
  obtain ⟨first, others, split⟩ := List.exists_cons_of_ne_nil (fields_ne_nil (· = ':') text)
  obtain ⟨smaller, more, smallSplit⟩ := List.exists_cons_of_ne_nil (fields_ne_nil (· = ':') small)
  rw [split, smallSplit] at later
  cases later with
  | cons here behind =>
      rw [fields_cons_uncut _ c text first others (by simpa using uncut) split,
        fields_append_uncut _ image small smaller more (by simpa using imageUncut) smallSplit]
      exact List.Forall₂.cons (grows first smaller here) behind

/-- Making a text small keeps its parts between colons. -/
theorem Mirrors.fields {text small : Text} (mirrors : Mirrors text small) :
    List.Forall₂ Mirrors (fields (· = ':') text) (fields (· = ':') small) := by
  induction mirrors with
  | nil => exact List.Forall₂.cons Mirrors.nil List.Forall₂.nil
  | sign c text small isSign later ih =>
      by_cases colon : c = ':'
      · simp only [Text.fields, colon]
        exact List.Forall₂.cons Mirrors.nil ih
      · have imageUncut : asciiLower c ≠ ':' := fun same => colon ((ascii_lower_eq_colon c).mp same)
        exact forall₂_fields_extend c [asciiLower c] text small colon
          (List.forall_mem_singleton.mpr imageUncut)
          (fun part smaller rest => Mirrors.sign c part smaller isSign rest) ih
  | other c image text small noSign nonempty clear later ih =>
      have uncut : c ≠ ':' := by
        intro colon
        apply noSign
        rw [colon]
        decide
      have imageUncut : ∀ d ∈ image, d ≠ ':' := by
        intro d member colon
        apply clear d member
        rw [colon]
        decide
      exact forall₂_fields_extend c image text small uncut imageUncut
        (fun part smaller rest => Mirrors.other c image part smaller noSign nonempty clear rest) ih

end Text

namespace Check

def NamesRoot (part : Text) : Prop :=
  Text.sameAscii part "root".toList = true ∨ Text.sameAscii part "0".toList = true

/-- An instruction that sets a user of whom no part between colons names root. -/
def SetsOrdinaryUser (instruction : Instruction) : Prop :=
  instruction.is "user".toList = true ∧
    ∃ spec ∈ instruction.content.head?, ∀ part ∈ Text.fields (· = ':') spec, ¬NamesRoot part

theorem mirrors_name_iff {part small : Text} (mirrors : Text.Mirrors part small) (name : Text)
    (signs : ∀ c ∈ name, c ∈ Text.rootSigns) (smallName : name.map Text.asciiLower = name) :
    small = name ↔ Text.sameAscii part name = true := by
  rw [mirrors.eq_iff name signs, Text.sameAscii, smallName, beq_iff_eq]

/-- The parts of a user and those of its small form, side by side, are root by name or by number at
the same places. -/
theorem forall₂_parts_name (spec : Text) :
    List.Forall₂ (fun part small =>
        (small = "root".toList ↔ Text.sameAscii part "root".toList = true) ∧
          (small = "0".toList ↔ Text.sameAscii part "0".toList = true))
      (Text.fields (· = ':') spec) (Text.fields (· = ':') (Text.lower spec)) := by
  apply (Text.mirrors_lower_after [] spec).fields.imp
  intro part small mirrors
  constructor
  · exact mirrors_name_iff mirrors "root".toList (by simp [Text.rootSigns]) rfl
  · exact mirrors_name_iff mirrors "0".toList (by simp [Text.rootSigns]) rfl

theorem all_iff_of_forall₂ {α β : Type} {p : α → Prop} {q : β → Bool} {left : List α}
    {right : List β} (related : List.Forall₂ (fun a b => q b = true ↔ p a) left right) :
    right.all q = true ↔ ∀ a ∈ left, p a := by
  induction related with
  | nil => simp
  | cons here _ ih => rw [List.all_cons, Bool.and_eq_true, here, ih, List.forall_mem_cons]

theorem is_ordinary_user_iff (spec : Text) :
    isOrdinaryUser spec = true ↔ ∀ part ∈ Text.fields (· = ':') spec, ¬NamesRoot part := by
  unfold isOrdinaryUser
  apply all_iff_of_forall₂
  apply (forall₂_parts_name spec).imp
  intro part small same
  rw [Bool.and_eq_true, bne_iff_ne, bne_iff_ne, Ne, Ne, same.1, same.2, NamesRoot, not_or]

theorem sets_ordinary_user_iff (instruction : Instruction) :
    setsOrdinaryUser instruction = true ↔ SetsOrdinaryUser instruction := by
  unfold setsOrdinaryUser SetsOrdinaryUser
  rw [Bool.and_eq_true]
  apply and_congr_right
  intro _
  cases instruction.content with
  | nil => simp
  | cons spec others => simp [is_ordinary_user_iff]

/-- The files without an ordinary user are listed once each and in their order. Whether a user is
ordinary is seen on the user as written: making it small moves no colon, and makes no part `root` or
`0` that is not so but for the case of ASCII letters. -/
theorem non_root_user_lists_files_without_ordinary_user (files : Files) :
    (nonRootUser files).items.Pairwise (· < ·) ∧
      (∀ name, name ∈ (nonRootUser files).items ↔ ∃ set, files.find? name = some set ∧
        ¬∃ instruction ∈ set.instructions, SetsOrdinaryUser instruction) ∧
      ∀ spec : Text, List.Forall₂ (fun part small =>
          (small = "root".toList ↔ Text.sameAscii part "root".toList = true) ∧
            (small = "0".toList ↔ Text.sameAscii part "0".toList = true))
        (Text.fields (· = ':') spec) (Text.fields (· = ':') (Text.lower spec)) := by
  refine ⟨ascending_files_where _ files, ?_, forall₂_parts_name⟩
  intro name
  rw [nonRootUser, Finding.of, mem_files_where]
  simp only [Bool.not_eq_true', ← Bool.not_eq_true, List.any_eq_true, sets_ordinary_user_iff]

end Check
end DockerfileAudit
