import DockerfileAudit.Proofs.Assignments
import DockerfileAudit.Proofs.Silence

/-!
One name and one value, without an equals sign between them. The name is the first word, in which
quotes may hide blanks, but the value begins behind the first blank of the text, hidden or not. The
two agree on where the name ends exactly if the name is written without a blank; otherwise what
stands behind that blank in the name is part of the value once more.
-/
set_option autoImplicit false

namespace DockerfileAudit

namespace Text

theorem count_p_trim (text : Text) :
    (trim text).countP (fun c => !isBlank c) = text.countP fun c => !isBlank c := by
  obtain ⟨before, after, frontBlank, backBlank, whole⟩ := exists_trim text
  have none (blanks : Text) (blank : ∀ c ∈ blanks, isBlank c = true) :
      blanks.countP (fun c => !isBlank c) = 0 := by
    rw [List.countP_eq_zero]
    intro c member
    simp [blank c member]
  have counted := congrArg (List.countP fun c => !isBlank c) whole
  rw [List.countP_append, List.countP_append, none before frontBlank,
    none after backBlank] at counted
  omega

end Text

namespace Argument

def putFirst (c : Char) (parts : Text × Text) : Text × Text := (c :: parts.1, parts.2)

/-- The first word of a text as it is written, and the text from the blank on that ends it. `quote`
is the quote that is open. -/
def writtenWord (quote : Option Char) : Text → Text × Text
  | [] => ([], [])
  | c :: rest =>
      match quote with
      | some q =>
          if c = q then putFirst c (writtenWord none rest)
          else if q = '"' ∧ c = '\\' then
            match rest with
            | [] => ([c], [])
            | d :: after => putFirst c (putFirst d (writtenWord quote after))
          else putFirst c (writtenWord quote rest)
      | none =>
          if c = '"' ∨ c = '\'' then putFirst c (writtenWord (some c) rest)
          else if Text.isBlank c then ([], c :: rest)
          else putFirst c (writtenWord none rest)

theorem written_word_append (quote : Option Char) (text : Text) :
    (writtenWord quote text).1 ++ (writtenWord quote text).2 = text := by
  fun_induction writtenWord quote text with
  | case1 quote => rfl
  | case2 rest q ih => simp [putFirst, ih]
  | case3 c q other escape => rfl
  | case4 c q other escape d after ih => simp [putFirst, ih]
  | case5 c rest q other plain ih => simp [putFirst, ih]
  | case6 c rest isQuote ih => simp [putFirst, ih]
  | case7 c rest noQuote blank => rfl
  | case8 c rest noQuote unblank ih => simp [putFirst, ih]

/-- The reader of words ends the word where it is written to end, and goes on from there. -/
theorem quoted_words_from_written_word (current : Text) (quote : Option Char) (text : Text) :
    ∃ word, quotedWordsFrom current true quote (writtenWord quote text).1 = [word] ∧
      quotedWordsFrom current true quote text = word :: quotedWords (writtenWord quote text).2 := by
  fun_induction writtenWord quote text generalizing current with
  | case1 quote => exact ⟨current.reverse, rfl, rfl⟩
  | case2 rest q ih =>
      simp only [putFirst, quoted_words_from_close]
      exact ih current
  | case3 c q other escape =>
      obtain ⟨rfl, rfl⟩ := escape
      exact ⟨current.reverse, rfl, rfl⟩
  | case4 c q other escape d after ih =>
      obtain ⟨rfl, rfl⟩ := escape
      simp only [putFirst, quoted_words_from_escaped]
      exact ih (d :: current)
  | case5 c rest q other plain ih =>
      simp only [putFirst, quoted_words_from_quoted _ _ _ _ c other plain]
      exact ih (c :: current)
  | case6 c rest isQuote ih =>
      simp only [putFirst, quoted_words_from_open _ _ _ c isQuote]
      exact ih current
  | case7 c rest noQuote blank =>
      refine ⟨current.reverse, rfl, ?_⟩
      rw [quoted_words_from_end _ _ c blank, quotedWords, quoted_words_from_blank _ _ c blank]
  | case8 c rest noQuote unblank ih =>
      have visible : Text.isBlank c = false := by simpa using unblank
      simp only [putFirst, quoted_words_from_char _ _ _ c visible noQuote]
      exact ih (c :: current)

/-- A character that is not blank begins a word, so nothing is lost by taking one for begun. -/
theorem quoted_words_cons_unblank (c : Char) (rest : Text) (unblank : Text.isBlank c = false) :
    quotedWords (c :: rest) = quotedWordsFrom [] true none (c :: rest) := by
  by_cases isQuote : c = '"' ∨ c = '\''
  · rw [quotedWords, quoted_words_from_open _ _ _ c isQuote, quoted_words_from_open _ _ _ c isQuote]
  · rw [quotedWords, quoted_words_from_char _ _ _ c unblank isQuote,
      quoted_words_from_char _ _ _ c unblank isQuote]

theorem written_word_starts (c : Char) (rest : Text) (unblank : Text.isBlank c = false) :
    ∃ more, (writtenWord none (c :: rest)).1 = c :: more := by
  by_cases isQuote : c = '"' ∨ c = '\''
  · exact ⟨_, by rw [writtenWord, if_pos isQuote]; rfl⟩
  · exact ⟨_, by rw [writtenWord, if_neg isQuote, unblank]; rfl⟩

theorem quoted_words_written_word (text : Text)
    (starts : ∃ c ∈ text.head?, Text.isBlank c = false) :
    ∃ first, quotedWords (writtenWord none text).1 = [first] ∧
      quotedWords text = first :: quotedWords (writtenWord none text).2 := by
  obtain ⟨c, head, unblank⟩ := starts
  obtain ⟨rest, rfl⟩ := List.head?_eq_some_iff.mp head
  obtain ⟨more, begins⟩ := written_word_starts c rest unblank
  obtain ⟨first, alone, all⟩ := quoted_words_from_written_word [] none (c :: rest)
  refine ⟨first, ?_, ?_⟩
  · rw [begins, quoted_words_cons_unblank c more unblank, ← begins]
    exact alone
  · rw [quoted_words_cons_unblank c rest unblank]
    exact all

theorem written_word_stops (quote : Option Char) (text : Text) :
    (writtenWord quote text).2 = [] ∨
      ∃ c rest, Text.isBlank c = true ∧ (writtenWord quote text).2 = c :: rest := by
  fun_induction writtenWord quote text with
  | case1 quote => exact Or.inl rfl
  | case2 rest q ih => exact ih
  | case3 c q other escape => exact Or.inl rfl
  | case4 c q other escape d after ih => exact ih
  | case5 c rest q other plain ih => exact ih
  | case6 c rest isQuote ih => exact ih
  | case7 c rest noQuote blank => exact Or.inr ⟨c, rest, blank, rfl⟩
  | case8 c rest noQuote unblank ih => exact ih

theorem ends_cons (c : Char) (text : Text) (first : text = [] → Text.isBlank c = false)
    (ends : ∀ d ∈ text.getLast?, Text.isBlank d = false) :
    ∀ d ∈ (c :: text).getLast?, Text.isBlank d = false := by
  intro d last
  cases text with
  | nil =>
      have same : c = d := by simpa using last
      rw [← same]
      exact first rfl
  | cons e rest => exact ends d last

/-- A word that a blank ends does not end in a blank itself: its last character is plain or closes a
quote. -/
theorem written_word_ends (quote : Option Char) (text : Text)
    (marks : ∀ q ∈ quote, Text.isBlank q = false) (goesOn : (writtenWord quote text).2 ≠ []) :
    (quote.isSome = true → (writtenWord quote text).1 ≠ []) ∧
      ∀ c ∈ (writtenWord quote text).1.getLast?, Text.isBlank c = false := by
  fun_induction writtenWord quote text with
  | case1 quote => exact absurd rfl goesOn
  | case2 rest q ih =>
      obtain ⟨_, ends⟩ := ih (by simp) goesOn
      exact ⟨by simp [putFirst], ends_cons q _ (fun _ => marks q rfl) ends⟩
  | case3 c q other escape => exact absurd rfl goesOn
  | case4 c q other escape d after ih =>
      obtain ⟨nonempty, ends⟩ := ih marks goesOn
      have inner := ends_cons d _ (fun nothing => absurd nothing (nonempty rfl)) ends
      exact ⟨by simp [putFirst], ends_cons c _ (by simp [putFirst]) inner⟩
  | case5 c rest q other plain ih =>
      obtain ⟨nonempty, ends⟩ := ih marks goesOn
      exact ⟨by simp [putFirst], ends_cons c _ (fun nothing => absurd nothing (nonempty rfl)) ends⟩
  | case6 c rest isQuote ih =>
      have mark : Text.isBlank c = false := by
        rcases isQuote with rfl | rfl <;> decide
      obtain ⟨_, ends⟩ := ih (by simpa using mark) goesOn
      exact ⟨by simp, ends_cons c _ (fun _ => mark) ends⟩
  | case7 c rest noQuote blank => simp
  | case8 c rest noQuote unblank ih =>
      obtain ⟨_, ends⟩ := ih (by simp) goesOn
      exact ⟨by simp, ends_cons c _ (fun _ => by simpa using unblank) ends⟩

theorem written_word_ends_of_tight (text : Text) (tight : text.Tight) :
    ∀ c ∈ (writtenWord none text).1.getLast?, Text.isBlank c = false := by
  by_cases goesOn : (writtenWord none text).2 = []
  · have whole := written_word_append none text
    rw [goesOn, List.append_nil] at whole
    rw [whole]
    obtain ⟨last, ends, unblank⟩ := tight.ends
    intro c same
    rw [Option.mem_unique same ends]
    exact unblank
  · exact (written_word_ends none text (by simp) goesOn).2

theorem eq_of_whole (text token : Text) (single : whole text = [token]) : text = token := by
  unfold whole at single
  split at single
  · simp at single
  · simpa using single

theorem exists_unblank_behind (before after : Text) (blank : Char)
    (isBlank : Text.isBlank blank = true)
    (ends : ∀ c ∈ (before ++ blank :: after).getLast?, Text.isBlank c = false) :
    ∃ c ∈ after, Text.isBlank c = false := by
  rw [List.append_cons] at ends
  cases last : after.getLast? with
  | none =>
      have nothing : after = [] := List.getLast?_eq_none_iff.mp last
      have visible := ends blank (by simp [nothing])
      rw [isBlank] at visible
      simp at visible
  | some c =>
      have member := List.mem_of_getLast? last
      refine ⟨c, member, ends c ?_⟩
      rw [List.getLast?_append_of_ne_nil _ (List.ne_nil_of_mem member)]
      exact last

theorem trim_append_ne (more rest : Text) (visible : ∃ c ∈ more, Text.isBlank c = false) :
    Text.trim (more ++ rest) ≠ Text.trim rest := by
  obtain ⟨c, member, unblank⟩ := visible
  have some : 0 < more.countP fun c => !Text.isBlank c :=
    List.countP_pos_iff.mpr ⟨c, member, by simp [unblank]⟩
  intro same
  have counted := congrArg (List.countP fun c => !Text.isBlank c) same
  rw [Text.count_p_trim, Text.count_p_trim, List.countP_append] at counted
  omega

section Pair

variable {text first : Text} {others : List Text} (words : quotedWords text = first :: others)
  (unpaired : first.contains '=' = false)

include words unpaired

theorem name_values_of_unbroken
    (unbroken : ∀ c ∈ (writtenWord none text).1, Text.isBlank c = false) :
    nameValues text = first :: whole (Text.trim (writtenWord none text).2) := by
  have parts := written_word_append none text
  unfold nameValues
  simp only [words, unpaired, Bool.false_eq_true, if_false]
  rcases written_word_stops none text with ended | ⟨c, rest, blank, goesOn⟩
  · have uncut : Text.cutAt Text.isBlank text = none := by
      rw [Text.cut_at_eq_none_iff, ← parts, ended, List.append_nil]
      exact unbroken
    rw [uncut, ended]
    rfl
  · have cut : Text.cutAt Text.isBlank text = some ((writtenWord none text).1, rest) := by
      rw [Text.cut_at_eq_some_iff]
      exact ⟨c, blank, unbroken, by rw [← goesOn, parts]⟩
    have trimmed : Text.trim (c :: rest) = Text.trim rest :=
      Text.trim_blanks_append [c] rest (List.forall_mem_singleton.mpr blank)
    rw [cut, goesOn, trimmed]

/-- The value has the end of the name in it, and so it is not what stands behind the name. -/
theorem name_values_of_broken (tight : text.Tight) (before after : Text) (blank : Char)
    (broken : (writtenWord none text).1 = before ++ blank :: after)
    (clean : ∀ c ∈ before, Text.isBlank c = false) (isBlank : Text.isBlank blank = true) :
    nameValues text = [first, Text.trim (after ++ (writtenWord none text).2)] ∧
      Text.trim (after ++ (writtenWord none text).2) ≠ Text.trim (writtenWord none text).2 := by
  have parts := written_word_append none text
  have cut : Text.cutAt Text.isBlank text = some (before, after ++ (writtenWord none text).2) := by
    rw [Text.cut_at_eq_some_iff]
    refine ⟨blank, isBlank, clean, ?_⟩
    calc text = (before ++ blank :: after) ++ (writtenWord none text).2 := by rw [← broken, parts]
      _ = before ++ blank :: (after ++ (writtenWord none text).2) := by simp
  have visible : ∃ c ∈ after, Text.isBlank c = false := by
    apply exists_unblank_behind before after blank isBlank
    rw [← broken]
    exact written_word_ends_of_tight text tight
  have valued : Text.trim (after ++ (writtenWord none text).2) ≠ [] := by
    intro nothing
    obtain ⟨c, member, unblank⟩ := visible
    have blanks := (Text.trim_eq_nil_iff _).mp nothing c (List.mem_append_left _ member)
    rw [unblank] at blanks
    simp at blanks
  refine ⟨?_, trim_append_ne after _ visible⟩
  unfold nameValues
  simp only [words, unpaired, Bool.false_eq_true, if_false, cut]
  rw [whole, if_neg (by simpa using valued)]

end Pair

/-- A text whose first word has no equals sign is that word and the text behind it, cut where the
word ends, exactly if the word is written without a blank. If it is written with one, the value
begins behind the first of them, so it repeats the end of the name. -/
theorem single_pair_splits_iff_unbroken (directive text first : Text) (others : List Text)
    (takesPairs : directive ∈ pairDirectives) (trimmed : Text.trim text = text)
    (nonempty : text ≠ [])
    (words : quotedWords text = first :: others) (unpaired : '=' ∉ first) :
    ((writtenWord none text).1 ++ (writtenWord none text).2 = text ∧
        quotedWords (writtenWord none text).1 = [first] ∧
        quotedWords (writtenWord none text).2 = others) ∧
      (ofText directive text = first :: whole (Text.trim (writtenWord none text).2) ↔
        ∀ c ∈ (writtenWord none text).1, Text.isBlank c = false) ∧
      ∀ before blank after, (writtenWord none text).1 = before ++ blank :: after →
        (∀ c ∈ before, Text.isBlank c = false) → Text.isBlank blank = true →
        ofText directive text = [first, Text.trim (after ++ (writtenWord none text).2)] := by
  have tight : text.Tight := by
    rw [← trimmed]
    exact Text.tight_trim text (by rw [trimmed]; exact nonempty)
  have noEquals : first.contains '=' = false := by simpa using unpaired
  rw [of_text_of_takes_pairs directive text takesPairs]
  refine ⟨?_, ⟨?_, name_values_of_unbroken words noEquals⟩, ?_⟩
  · obtain ⟨word, alone, all⟩ := quoted_words_written_word text tight.starts
    rw [words, List.cons.injEq] at all
    exact ⟨written_word_append none text, by rw [alone, all.1], all.2.symm⟩
  · intro splits
    rw [← Text.cut_at_eq_none_iff]
    cases cut : Text.cutAt Text.isBlank (writtenWord none text).1 with
    | none => rfl
    | some parts =>
        obtain ⟨blank, isBlank, clean, broken⟩ := (Text.cut_at_eq_some_iff _ _ _ _).mp cut
        obtain ⟨repeats, differs⟩ :=
          name_values_of_broken words noEquals tight _ _ blank broken clean
          isBlank
        have valued := List.cons.inj (splits.symm.trans repeats)
        exact absurd (eq_of_whole _ _ valued.2).symm differs
  · intro before blank after broken clean isBlank
    exact (name_values_of_broken words noEquals tight before after blank broken clean isBlank).1

theorem single_pair_splits_iff_unbroken_quoted :
    ofText "label".toList "'a b'c  d".toList = ["a bc".toList, "b'c  d".toList] ∧
      ofText "env".toList "k'e'y  super secret".toList = ["key".toList, "super secret".toList] := by
  constructor
  · have written : writtenWord none "'a b'c  d".toList = ("'a b'c".toList, "  d".toList) := by
      decide +kernel
    have words : quotedWords "'a b'c  d".toList = ["a bc".toList, "d".toList] := by decide +kernel
    have general := single_pair_splits_iff_unbroken "label".toList "'a b'c  d".toList "a bc".toList
      ["d".toList] (by decide) (by decide +kernel) (by decide) words (by decide)
    rw [written] at general
    exact general.2.2 "'a".toList ' ' "b'c".toList rfl ((Text.cut_at_eq_none_iff _ _).mp rfl) rfl
  · have written : writtenWord none "k'e'y  super secret".toList =
        ("k'e'y".toList, "  super secret".toList) := by decide +kernel
    have words : quotedWords "k'e'y  super secret".toList =
        ["key".toList, "super".toList, "secret".toList] := by decide +kernel
    have general := single_pair_splits_iff_unbroken "env".toList "k'e'y  super secret".toList
      "key".toList ["super".toList, "secret".toList] (by decide) (by decide +kernel) (by decide)
      words
      (by decide)
    rw [written] at general
    exact general.2.1.mpr ((Text.cut_at_eq_none_iff _ _).mp rfl)

/-- The first word is written with a blank between quotes, and `b"` is part of the name and of the
value. -/
theorem quoted_blank_is_in_name_and_value :
    writtenWord none "\"a b\" c".toList = ("\"a b\"".toList, " c".toList) ∧
      quotedWords "\"a b\" c".toList = ["a b".toList, "c".toList] ∧
      Document.parse "ENV \"a b\" c".toList =
        .ok [⟨"env".toList, [], ["a b".toList, "b\" c".toList]⟩] ∧
      "a b".toList :: whole (Text.trim " c".toList) ≠ ["a b".toList, "b\" c".toList] := by
  decide +kernel

end Argument
end DockerfileAudit
