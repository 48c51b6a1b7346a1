import DockerfileAudit.Dockerfile.Statement
import DockerfileAudit.Proofs.Trim

/-!
The words of a text and the flags in front of it. A word has no blank in it and is not empty, and a
text is cut at any blank without a change to its words. The first word begins where the blanks end,
so the text behind the flags, which does not begin with two hyphens, has no first word that does.
-/
set_option autoImplicit false

namespace DockerfileAudit

namespace Text

theorem trim_start_unblank_append (front back : Text) (nonempty : front ≠ [])
    (unblank : ∀ c ∈ front, isBlank c = false) : trimStart (front ++ back) = front ++ back := by
  cases front with
  | nil => exact absurd rfl nonempty
  | cons c rest => simp [trimStart, unblank c (by simp)]

theorem trim_start_head (text : Text) : ∀ c ∈ (trimStart text).head?, isBlank c = false := by
  intro c first
  obtain ⟨rest, starts⟩ := List.head?_eq_some_iff.mp first
  exact trim_start_starts_unblank text c rest starts

theorem words_from_proper (current text : Text) (unblank : ∀ c ∈ current, isBlank c = false) :
    ∀ word ∈ wordsFrom current text, word ≠ [] ∧ ∀ c ∈ word, isBlank c = false := by
  fun_induction wordsFrom current text with
  | case1 current nothing => simp
  | case2 current begun =>
      rw [List.forall_mem_singleton]
      simpa using ⟨by simpa using begun, unblank⟩
  | case3 current c rest blank nothing ih => exact ih (by simp)
  | case4 current c rest blank begun ih =>
      rw [List.forall_mem_cons]
      refine ⟨?_, ih (by simp)⟩
      simpa using ⟨by simpa using begun, unblank⟩
  | case5 current c rest visible ih =>
      apply ih
      rw [List.forall_mem_cons]
      exact ⟨by simpa using visible, unblank⟩

theorem mem_words (text word : Text) (member : word ∈ words text) :
    word ≠ [] ∧ ∀ c ∈ word, isBlank c = false :=
  words_from_proper [] text (by simp) word member

theorem words_from_first (current text first : Text) (others : List Text)
    (unblank : ∀ c ∈ current, isBlank c = false)
    (split : wordsFrom current text = first :: others) :
    ∃ more, trimStart (current.reverse ++ text) = first ++ more := by
  fun_induction wordsFrom current text with
  | case1 current nothing => simp at split
  | case2 current begun =>
      obtain ⟨rfl, _⟩ := List.cons.inj split
      exact ⟨[], trim_start_unblank_append _ _ (by simpa using begun) (by simpa using unblank)⟩
  | case3 current c rest blank nothing ih =>
      obtain ⟨more, starts⟩ := ih (by simp) split
      refine ⟨more, ?_⟩
      rw [List.isEmpty_iff.mp nothing, ← starts]
      simp [trimStart, blank]
  | case4 current c rest blank begun ih =>
      obtain ⟨rfl, _⟩ := List.cons.inj split
      exact ⟨c :: rest,
        trim_start_unblank_append _ _ (by simpa using begun) (by simpa using unblank)⟩
  | case5 current c rest visible ih =>
      obtain ⟨more, starts⟩ := ih
        (List.forall_mem_cons.mpr ⟨by simpa using visible, unblank⟩) split
      refine ⟨more, ?_⟩
      rw [← starts, List.reverse_cons, ← List.append_cons]

theorem words_first (text first : Text) (others : List Text)
    (split : words text = first :: others) :
    ∃ more, trimStart text = first ++ more :=
  words_from_first [] text first others (by simp) split

/-- A blank ends the word before it, whatever was read of that word. -/
theorem words_from_append_blank (current front rest : Text) (blank : Char)
    (ends : isBlank blank = true) :
    wordsFrom current (front ++ blank :: rest) = wordsFrom current front ++ words rest := by
  fun_induction wordsFrom current front with
  | case1 current nothing => simp [wordsFrom, ends, nothing, words]
  | case2 current begun => simp [wordsFrom, ends, begun, words]
  | case3 current c front blank nothing ih =>
      rw [List.cons_append, wordsFrom, if_pos blank, if_pos nothing]
      exact ih
  | case4 current c front blank begun ih =>
      rw [List.cons_append, wordsFrom, if_pos blank, if_neg begun, ih]
      rfl
  | case5 current c front visible ih =>
      rw [List.cons_append, wordsFrom, if_neg visible]
      exact ih

theorem words_append_blank (front rest : Text) (blank : Char) (ends : isBlank blank = true) :
    words (front ++ blank :: rest) = words front ++ words rest :=
  words_from_append_blank [] front rest blank ends

theorem words_blanks_append (blanks rest : Text) (blank : ∀ c ∈ blanks, isBlank c = true) :
    words (blanks ++ rest) = words rest := by
  induction blanks with
  | nil => rfl
  | cons c blanks ih =>
      rw [List.forall_mem_cons] at blank
      calc words (c :: (blanks ++ rest)) = words [] ++ words (blanks ++ rest) :=
            words_append_blank [] (blanks ++ rest) c blank.1
        _ = words rest := by rw [ih blank.2]; rfl

theorem words_from_unblank (current text : Text) (unblank : ∀ c ∈ text, isBlank c = false) :
    wordsFrom current text = wordsFrom (text.reverse ++ current) [] := by
  induction text generalizing current with
  | nil => rfl
  | cons c text ih =>
      rw [List.forall_mem_cons] at unblank
      have visible : ¬isBlank c = true := by simp [unblank.1]
      calc wordsFrom current (c :: text) = wordsFrom (c :: current) text := by
            rw [wordsFrom, if_neg visible]
        _ = wordsFrom (text.reverse ++ c :: current) [] := ih (c :: current) unblank.2
        _ = wordsFrom ((c :: text).reverse ++ current) [] := by simp

theorem words_unblank (word : Text) (nonempty : word ≠ [])
    (unblank : ∀ c ∈ word, isBlank c = false) :
    words word = [word] := by
  rw [words, words_from_unblank [] word unblank]
  simp [wordsFrom, nonempty]

end Text

namespace Argument

/-- A text that begins with two hyphens begins with them up to its first blank. -/
theorem hyphens_before_blank (flag rest : Text) (blank : Char) (isBlank : Text.isBlank blank = true)
    (starts : Text.startsWith (flag ++ blank :: rest) ['-', '-'] = true) :
    Text.startsWith flag ['-', '-'] = true := by
  have unblank : blank ≠ '-' := by
    intro hyphen
    rw [hyphen] at isBlank
    exact absurd isBlank (by decide)
  obtain ⟨more, whole⟩ := (Text.starts_with_iff _ _).mp starts
  rw [Text.starts_with_iff]
  cases flag with
  | nil => exact absurd (List.cons.inj whole).1 unblank
  | cons first flag =>
      cases flag with
      | nil => exact absurd (List.cons.inj (List.cons.inj whole).2).1 unblank
      | cons second flag =>
          simp only [List.cons_append, List.cons.injEq] at whole
          exact ⟨flag, by rw [whole.1, whole.2.1]; rfl⟩

/-- One step of taking flags: there is none, or the text is one, or one stands before a blank. -/
theorem take_flags_cases (fuel : Nat) (text : Text) :
    Text.startsWith text ['-', '-'] = false ∧ takeFlags (fuel + 1) text = ([], text) ∨
      (Text.startsWith text ['-', '-'] = true ∧ (∀ c ∈ text, Text.isBlank c = false) ∧
        takeFlags (fuel + 1) text = ([text], [])) ∨
      ∃ flag blank rest, text = flag ++ blank :: rest ∧
        Text.startsWith flag ['-', '-'] = true ∧ (∀ c ∈ flag, Text.isBlank c = false) ∧
        takeFlags (fuel + 1) text =
          (flag :: (takeFlags fuel (Text.trimStart rest)).1,
            (takeFlags fuel (Text.trimStart rest)).2) := by
  cases starts : Text.startsWith text ['-', '-'] with
  | false => exact Or.inl ⟨rfl, by simp [takeFlags, starts]⟩
  | true =>
      cases cut : Text.cutAt Text.isBlank text with
      | none =>
          have unblank := (Text.cut_at_eq_none_iff _ _).mp cut
          exact Or.inr (Or.inl ⟨rfl, unblank, by simp [takeFlags, starts, cut]⟩)
      | some parts =>
          obtain ⟨blank, isBlank, unblank, whole⟩ := (Text.cut_at_eq_some_iff _ _ _ _).mp cut
          refine Or.inr (Or.inr ⟨parts.1, blank, parts.2, whole, ?_, unblank, ?_⟩)
          · rw [whole] at starts
            exact hyphens_before_blank parts.1 parts.2 blank isBlank starts
          · simp [takeFlags, starts, cut]

theorem take_flags_proper (fuel : Nat) (text : Text) :
    ∀ flag ∈ (takeFlags fuel text).1,
      Text.startsWith flag ['-', '-'] = true ∧ ∀ c ∈ flag, Text.isBlank c = false := by
  induction fuel generalizing text with
  | zero => simp [takeFlags]
  | succ fuel ih =>
      rcases take_flags_cases fuel text with ⟨_, taken⟩ | ⟨starts, unblank, taken⟩ |
        ⟨flag, blank, rest, _, starts, unblank, taken⟩
      · simp [taken]
      · rw [taken, List.forall_mem_singleton]
        exact ⟨starts, unblank⟩
      · rw [taken, List.forall_mem_cons]
        exact ⟨⟨starts, unblank⟩, ih (Text.trimStart rest)⟩

/-- The text behind the flags begins with a blank only if the whole text does. -/
theorem take_flags_head (fuel : Nat) (text : Text)
    (head : ∀ c ∈ text.head?, Text.isBlank c = false) :
    ∀ c ∈ (takeFlags fuel text).2.head?, Text.isBlank c = false := by
  induction fuel generalizing text with
  | zero => exact head
  | succ fuel ih =>
      rcases take_flags_cases fuel text with ⟨_, taken⟩ | ⟨_, _, taken⟩ |
        ⟨flag, blank, rest, _, _, _, taken⟩
      · rw [taken]
        exact head
      · simp [taken]
      · rw [taken]
        exact ih (Text.trimStart rest) (Text.trim_start_head rest)

/-- Flags are taken until none is left, since each step takes two characters at least. -/
theorem take_flags_flagless (fuel : Nat) (text : Text) (enough : text.length ≤ fuel) :
    Text.startsWith (takeFlags fuel text).2 ['-', '-'] = false := by
  induction fuel generalizing text with
  | zero =>
      have nothing : text = [] := List.length_eq_zero_iff.mp (Nat.le_zero.mp enough)
      rw [nothing]
      rfl
  | succ fuel ih =>
      rcases take_flags_cases fuel text with ⟨flagless, taken⟩ | ⟨_, _, taken⟩ |
        ⟨flag, blank, rest, whole, _, _, taken⟩
      · rw [taken]
        exact flagless
      · rw [taken]
        rfl
      · rw [taken]
        apply ih
        have shorter : (Text.trimStart rest).length ≤ rest.length :=
          (List.dropWhile_suffix Text.isBlank).length_le
        rw [whole, List.length_append, List.length_cons] at enough
        omega

end Argument
end DockerfileAudit
