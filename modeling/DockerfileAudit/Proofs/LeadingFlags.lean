import DockerfileAudit.Proofs.Words

/-!
The words with two hyphens in front of a text. They are taken off round by round, with no count of
the rounds: a round is made as long as what is left begins with two hyphens. Each round leaves less
text, so the rounds come to an end, and the bound under which flags are taken is never reached. What
a round takes is the first word of the text, so no word is lost, and the first word that is left has
no hyphens in front.
-/
set_option autoImplicit false

namespace DockerfileAudit
namespace Argument

def firstPart (text : Text) : Text × Text :=
  match Text.cutAt Text.isBlank text with
  | some (part, rest) => (part, Text.trimStart rest)
  | none => (text, [])

/-- The rounds in which flags are taken off a text, from the text to the flags and what is left.
Nothing bounds their number, so a text without an end to its rounds has no flags here. -/
inductive TakesFlags : Text → List Text → Text → Prop where
  | done {text : Text} (flagless : Text.startsWith text ['-', '-'] = false) :
      TakesFlags text [] text
  | round {text rest : Text} {flags : List Text} (hyphened : Text.startsWith text ['-', '-'] = true)
      (later : TakesFlags (firstPart text).2 flags rest) :
      TakesFlags text ((firstPart text).1 :: flags) rest

/-- What a round takes and leaves: a flag, the blanks behind it, and the rest of the text. Without
blanks behind the flag nothing is left. -/
theorem first_part_cases (text : Text) (hyphened : Text.startsWith text ['-', '-'] = true) :
    ∃ flag blanks rest, firstPart text = (flag, rest) ∧ text = flag ++ (blanks ++ rest) ∧
      Text.startsWith flag ['-', '-'] = true ∧ (∀ c ∈ flag, Text.isBlank c = false) ∧
      (∀ c ∈ blanks, Text.isBlank c = true) ∧ (blanks = [] → rest = []) := by
  unfold firstPart
  cases cut : Text.cutAt Text.isBlank text with
  | none =>
      have unblank := (Text.cut_at_eq_none_iff _ _).mp cut
      exact ⟨text, [], [], rfl, by simp, hyphened, unblank, by simp, fun _ => rfl⟩
  | some parts =>
      obtain ⟨blank, isBlank, unblank, whole⟩ := (Text.cut_at_eq_some_iff _ _ _ _).mp cut
      have trimmed := List.takeWhile_append_dropWhile (p := Text.isBlank) (l := parts.2)
      refine ⟨parts.1, blank :: parts.2.takeWhile Text.isBlank, Text.trimStart parts.2, rfl, ?_, ?_,
        unblank, ?_, by simp⟩
      · rw [List.cons_append, Text.trimStart, trimmed]
        exact whole
      · rw [whole] at hyphened
        exact hyphens_before_blank parts.1 parts.2 blank isBlank hyphened
      · rw [List.forall_mem_cons]
        exact ⟨isBlank, fun _ member => List.mem_takeWhile_imp member⟩

theorem ne_nil_of_hyphened (text : Text) (hyphened : Text.startsWith text ['-', '-'] = true) :
    text ≠ [] := by
  intro nothing
  rw [nothing] at hyphened
  contradiction

theorem words_of_round (flag blanks rest : Text) (hyphened : Text.startsWith flag ['-', '-'] = true)
    (unblank : ∀ c ∈ flag, Text.isBlank c = false) (blank : ∀ c ∈ blanks, Text.isBlank c = true)
    (ended : blanks = [] → rest = []) :
    Text.words (flag ++ (blanks ++ rest)) = flag :: Text.words rest := by
  have word := Text.words_unblank flag (ne_nil_of_hyphened flag hyphened) unblank
  cases blanks with
  | nil =>
      rw [ended rfl, List.nil_append, List.append_nil, word]
      rfl
  | cons c blanks =>
      rw [List.forall_mem_cons] at blank
      rw [List.cons_append, Text.words_append_blank flag _ c blank.1, word,
        Text.words_blanks_append blanks rest blank.2]
      rfl

theorem length_first_part_lt (text : Text) (hyphened : Text.startsWith text ['-', '-'] = true) :
    (firstPart text).2.length < text.length := by
  obtain ⟨flag, blanks, rest, parts, whole, flagHyphened, _⟩ := first_part_cases text hyphened
  have some := List.length_pos_iff.mpr (ne_nil_of_hyphened flag flagHyphened)
  have counted := congrArg List.length whole
  rw [List.length_append, List.length_append] at counted
  rw [parts]
  dsimp only
  omega

theorem take_flags_flagged (fuel : Nat) (text : Text)
    (hyphened : Text.startsWith text ['-', '-'] = true) :
    takeFlags (fuel + 1) text =
      ((firstPart text).1 :: (takeFlags fuel (firstPart text).2).1,
        (takeFlags fuel (firstPart text).2).2) := by
  have nothing : takeFlags fuel [] = ([], []) := by
    cases fuel with
    | zero => rfl
    | succ fuel => rfl
  unfold firstPart
  rw [takeFlags, if_pos hyphened]
  cases cut : Text.cutAt Text.isBlank text with
  | none => simp only [nothing]
  | some parts => rfl

/-- A bound that the text's length meets is never reached, for the text gets shorter with each
round. -/
theorem takes_flags_take_flags (fuel : Nat) (text : Text) (enough : text.length ≤ fuel) :
    TakesFlags text (takeFlags fuel text).1 (takeFlags fuel text).2 := by
  induction fuel generalizing text with
  | zero =>
      have nothing : text = [] := List.length_eq_zero_iff.mp (Nat.le_zero.mp enough)
      rw [nothing]
      exact TakesFlags.done rfl
  | succ fuel ih =>
      cases hyphened : Text.startsWith text ['-', '-'] with
      | false =>
          have untouched : takeFlags (fuel + 1) text = ([], text) := by simp [takeFlags, hyphened]
          rw [untouched]
          exact TakesFlags.done hyphened
      | true =>
          have shorter := length_first_part_lt text hyphened
          rw [take_flags_flagged fuel text hyphened]
          exact TakesFlags.round hyphened (ih (firstPart text).2 (by omega))

namespace TakesFlags

variable {text rest : Text} {taken : List Text}

theorem unique (rounds : TakesFlags text taken rest) {otherRest : Text} {otherTaken : List Text}
    (others : TakesFlags text otherTaken otherRest) : (taken, rest) = (otherTaken, otherRest) := by
  induction rounds generalizing otherTaken otherRest with
  | done flagless =>
      cases others with
      | done => rfl
      | round hyphened => rw [flagless] at hyphened; contradiction
  | round hyphened later ih =>
      cases others with
      | done flagless => rw [flagless] at hyphened; contradiction
      | round _ otherLater =>
          have same := Prod.mk.inj (ih otherLater)
          rw [same.1, same.2]

/-- What is left stands at the end of the text as it was, and what stands before it holds the flags
and no other word. -/
theorem exists_front (rounds : TakesFlags text taken rest) :
    ∃ front, text = front ++ rest ∧ Text.words front = taken := by
  induction rounds with
  | done flagless => exact ⟨[], rfl, rfl⟩
  | @round text rest taken hyphened later ih =>
      obtain ⟨flag, blanks, left, parts, whole, flagHyphened, unblank, blank, ended⟩ :=
        first_part_cases text hyphened
      obtain ⟨front, leftWhole, leftWords⟩ := ih
      rw [parts] at leftWhole ⊢
      dsimp only at leftWhole
      -- The blanks of the round go to the front: they end its word, and the later front follows
      -- them.
      have frontEnded : blanks = [] → front = [] := by
        intro unspaced
        have nothing := ended unspaced
        rw [leftWhole] at nothing
        exact (List.append_eq_nil_iff.mp nothing).1
      refine ⟨flag ++ (blanks ++ front), ?_, ?_⟩
      · rw [whole, leftWhole]
        simp
      · rw [words_of_round flag blanks front flagHyphened unblank blank frontEnded, leftWords]

theorem words_eq (rounds : TakesFlags text taken rest) :
    Text.words text = taken ++ Text.words rest := by
  induction rounds with
  | done flagless => rfl
  | @round text rest taken hyphened later ih =>
      obtain ⟨flag, blanks, left, parts, whole, flagHyphened, unblank, blank, ended⟩ :=
        first_part_cases text hyphened
      rw [parts] at ih ⊢
      rw [whole, words_of_round flag blanks left flagHyphened unblank blank ended, ih]
      rfl

end TakesFlags

theorem take_while_words_flagless (text : Text) (starts : ∀ c ∈ text.head?, Text.isBlank c = false)
    (flagless : Text.startsWith text ['-', '-'] = false) :
    (Text.words text).takeWhile (Text.startsWith · ['-', '-']) = [] := by
  cases split : Text.words text with
  | nil => rfl
  | cons first others =>
      obtain ⟨more, begins⟩ := Text.words_first text first others split
      have untrimmed : Text.trimStart text = text := by
        cases text with
        | nil => rfl
        | cons c rest => simp [Text.trimStart, starts c rfl]
      rw [untrimmed] at begins
      have plain : ¬Text.startsWith first ['-', '-'] = true := by
        intro hyphened
        obtain ⟨rest, whole⟩ := (Text.starts_with_iff _ _).mp hyphened
        have found : Text.startsWith text ['-', '-'] = true := by
          rw [Text.starts_with_iff]
          exact ⟨rest ++ more, by rw [begins, whole, List.append_assoc]⟩
        rw [flagless] at found
        contradiction
      exact List.takeWhile_cons_of_neg plain

/-- In a text that does not begin with a blank, the rounds come to one end, and that end is the
flags and the text behind them. The flags are the first words of the text, as far as they begin with
two hyphens; no word is lost; and the text behind the flags is the end of the text, with all its
blanks. -/
theorem flags_take_leading_words (text : Text)
    (starts : ∀ c ∈ text.head?, Text.isBlank c = false) :
    (∀ taken rest, TakesFlags text taken rest ↔ flags text = (taken, rest)) ∧
      Text.words text = (flags text).1 ++ Text.words (flags text).2 ∧
      (flags text).1 = (Text.words text).takeWhile (Text.startsWith · ['-', '-']) ∧
      ∃ front, text = front ++ (flags text).2 ∧ Text.words front = (flags text).1 ∧
        ∀ c ∈ (flags text).2.head?, Text.isBlank c = false := by
  have rounds : TakesFlags text (flags text).1 (flags text).2 :=
    takes_flags_take_flags text.length text (Nat.le_refl _)
  have head : ∀ c ∈ (flags text).2.head?, Text.isBlank c = false := take_flags_head _ text starts
  have hyphened : ∀ flag ∈ (flags text).1, Text.startsWith flag ['-', '-'] = true :=
    fun flag member => (take_flags_proper _ text flag member).1
  have stops := take_while_words_flagless (flags text).2 head
    (take_flags_flagless _ text (Nat.le_refl _))
  have kept := rounds.words_eq
  obtain ⟨front, whole, frontWords⟩ := rounds.exists_front
  refine ⟨?_, kept, ?_, front, whole, frontWords, head⟩
  · intro taken rest
    constructor
    · intro others
      exact rounds.unique others
    · intro same
      rw [same] at rounds
      exact rounds
  · rw [kept, List.takeWhile_append_of_pos hyphened, stops, List.append_nil]

def spacedFlags : Text := "--a=b \t--c\u00a0 d  e --f ".toList

theorem flags_take_leading_words_of_spaced :
    TakesFlags spacedFlags ["--a=b".toList, "--c".toList] "d  e --f ".toList ∧
      Text.words spacedFlags = ["--a=b".toList, "--c".toList] ++ Text.words "d  e --f ".toList ∧
      ["--a=b".toList, "--c".toList] =
        (Text.words spacedFlags).takeWhile (Text.startsWith · ['-', '-']) ∧
      ∃ front, spacedFlags = front ++ "d  e --f ".toList ∧
        Text.words front = ["--a=b".toList, "--c".toList] := by
  have taken : flags spacedFlags = (["--a=b".toList, "--c".toList], "d  e --f ".toList) := by
    decide +kernel
  have starts : ∀ c ∈ spacedFlags.head?, Text.isBlank c = false := by
    have hyphen : spacedFlags.head? = some '-' := rfl
    intro c first
    rw [Option.mem_unique first hyphen]
    decide
  obtain ⟨ends, kept, longest, front, whole, frontWords, _⟩ :=
    flags_take_leading_words spacedFlags starts
  rw [taken] at kept longest whole frontWords
  exact ⟨(ends _ _).mpr taken, kept, longest, front, whole, frontWords⟩

end Argument
end DockerfileAudit
