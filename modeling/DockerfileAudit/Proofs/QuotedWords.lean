import DockerfileAudit.Proofs.Assignments
import DockerfileAudit.Proofs.Words

/-!
Words with quotes beside plain words. The reader of quoted words is followed character by character:
where it stands after a part of a text decides, together with the text that comes then, which words
are still to come. Between words nothing is left over from the text before, so a text can be cut
there, and nowhere else. Without quotes the two readers agree. The first quote of a text is opened
and belongs to no word, so with a quote they differ in the characters that they keep.
-/
set_option autoImplicit false

namespace DockerfileAudit

namespace Text

def isVisible (c : Char) : Bool := !isBlank c

/-- Words hold all that is not blank, in the order of the text. -/
theorem words_from_flatten (current text : Text) :
    (wordsFrom current text).flatten = current.reverse ++ text.filter isVisible := by
  fun_induction wordsFrom current text with
  | case1 current nothing => simp [List.isEmpty_iff.mp nothing]
  | case2 current begun => simp
  | case3 current c rest blank nothing ih =>
      simp [ih, isVisible, blank, List.isEmpty_iff.mp nothing]
  | case4 current c rest blank begun ih => simp [ih, isVisible, blank]
  | case5 current c rest visible ih => simp [ih, isVisible, visible]

theorem count_p_words (text : Text) :
    (words text).flatten.countP isVisible = text.countP isVisible := by
  rw [words, words_from_flatten, List.reverse_nil, List.nil_append, List.countP_filter]
  simp

end Text

namespace Argument

theorem Quote.unblank_mark (quote : Quote) : Text.isBlank quote.mark = false := by
  cases quote with
  | double => decide
  | single => decide

/-- Where the reader of quoted words stands in a text: between words, in a word, between the quotes
of a word, or behind a backslash between double quotes. What is read of the word is in reverse. -/
inductive Place where
  | between
  | inWord (current : Text)
  | quoted (quote : Quote) (current : Text)
  | escaped (current : Text)

namespace Place

def quote? : Place → Option Quote
  | between => none
  | inWord _ => none
  | quoted quote _ => some quote
  | escaped _ => some .double

def current : Place → Text
  | between => []
  | inWord current => current
  | quoted _ current => current
  | escaped current => current

def nextPlain (current : Text) (c : Char) : Place :=
  if c = '"' then quoted .double current
  else if c = '\'' then quoted .single current
  else if Text.isBlank c then between
  else inWord (c :: current)

def next : Place → Char → Place
  | between, c => nextPlain [] c
  | inWord current, c => nextPlain current c
  | quoted quote current, c =>
      if c = quote.mark then inWord current
      else if quote.mark = '"' ∧ c = '\\' then escaped current
      else quoted quote (c :: current)
  | escaped current, c => quoted .double (c :: current)

def after (place : Place) (text : Text) : Place := text.foldl next place

/-- The word that a character ends, if it ends one. -/
def wordEndedBy : Place → Char → List Text
  | inWord current, c => if Text.isBlank c then [current.reverse] else []
  | _, _ => []

def wordsEndedBy (place : Place) : Text → List Text
  | [] => []
  | c :: rest => place.wordEndedBy c ++ (place.next c).wordsEndedBy rest

/-- The words that are still to come, given the text behind the place. -/
def wordsBehind : Place → Text → List Text
  | between, text => quotedWords text
  | inWord current, text => quotedWordsFrom current true none text
  | quoted quote current, text => quotedWordsFrom current true (some quote.mark) text
  | escaped current, [] => [current.reverse]
  | escaped current, c :: rest => quotedWordsFrom (c :: current) true (some '"') rest

theorem next_plain_cases (current : Text) (c : Char) :
    (∃ quote : Quote, c = quote.mark ∧ nextPlain current c = quoted quote current) ∨
      (Text.isBlank c = true ∧ nextPlain current c = between) ∨
      (Text.isBlank c = false ∧ ¬(c = '"' ∨ c = '\'') ∧
        nextPlain current c = inWord (c :: current)) := by
  unfold nextPlain
  by_cases double : c = '"'
  · exact Or.inl ⟨.double, double, if_pos double⟩
  · by_cases single : c = '\''
    · exact Or.inl ⟨.single, single, by rw [if_neg double, if_pos single]⟩
    · rw [if_neg double, if_neg single]
      cases blank : Text.isBlank c with
      | true => exact Or.inr (Or.inl ⟨rfl, rfl⟩)
      | false => exact Or.inr (Or.inr ⟨rfl, not_or.mpr ⟨double, single⟩, rfl⟩)

theorem next_quoted_cases (quote : Quote) (current : Text) (c : Char) :
    (c = quote.mark ∧ (quoted quote current).next c = inWord current) ∨
      ((quote.mark = '"' ∧ c = '\\') ∧ (quoted quote current).next c = escaped current) ∨
      (c ≠ quote.mark ∧ ¬(quote.mark = '"' ∧ c = '\\') ∧
        (quoted quote current).next c = quoted quote (c :: current)) := by
  simp only [next]
  by_cases closes : c = quote.mark
  · exact Or.inl ⟨closes, if_pos closes⟩
  · rw [if_neg closes]
    by_cases escapes : quote.mark = '"' ∧ c = '\\'
    · exact Or.inr (Or.inl ⟨escapes, if_pos escapes⟩)
    · exact Or.inr (Or.inr ⟨closes, escapes, if_neg escapes⟩)

theorem words_behind_cons (place : Place) (c : Char) (rest : Text) :
    place.wordsBehind (c :: rest) = place.wordEndedBy c ++ (place.next c).wordsBehind rest := by
  cases place with
  | between =>
      simp only [wordsBehind, next, wordEndedBy, List.nil_append]
      rcases next_plain_cases [] c with
        ⟨quote, rfl, place⟩ | ⟨blank, place⟩ | ⟨unblank, noQuote, place⟩
      · rw [place]
        exact quoted_words_from_open [] false rest quote.mark quote.mark_cases
      · rw [place]
        exact quoted_words_from_blank [] rest c blank
      · rw [place]
        exact quoted_words_from_char [] false rest c unblank noQuote
  | inWord current =>
      simp only [wordsBehind, next, wordEndedBy]
      rcases next_plain_cases current c with
        ⟨quote, rfl, place⟩ | ⟨blank, place⟩ | ⟨unblank, noQuote, place⟩
      · rw [place, quote.unblank_mark]
        exact quoted_words_from_open current true rest quote.mark quote.mark_cases
      · rw [place, blank]
        exact quoted_words_from_end current rest c blank
      · rw [place, unblank]
        exact quoted_words_from_char current true rest c unblank noQuote
  | quoted quote current =>
      simp only [wordsBehind, wordEndedBy, List.nil_append]
      rcases next_quoted_cases quote current c with
        ⟨rfl, place⟩ | ⟨⟨double, rfl⟩, place⟩ | ⟨other, plain, place⟩
      · rw [place]
        exact quoted_words_from_close current true rest quote.mark
      · rw [place, double]
        cases rest with
        | nil => rfl
        | cons d rest => exact quoted_words_from_escaped current true rest d
      · rw [place]
        exact quoted_words_from_quoted current true rest quote.mark c other plain
  | escaped current => rfl

/-- A text gives the words that end within it, and leaves the reader where the other words begin. -/
theorem words_behind_append (place : Place) (front back : Text) :
    place.wordsBehind (front ++ back) =
      place.wordsEndedBy front ++ (place.after front).wordsBehind back := by
  induction front generalizing place with
  | nil => rfl
  | cons c front ih =>
      rw [List.cons_append, words_behind_cons, ih, wordsEndedBy, List.append_assoc]
      rfl

/-- A character leads between words exactly if it is blank and no quote is open behind it. -/
theorem next_eq_between_iff (place : Place) (c : Char) :
    place.next c = between ↔ (place.next c).quote? = none ∧ Text.isBlank c = true := by
  have plain (current : Text) : nextPlain current c = between ↔
      (nextPlain current c).quote? = none ∧ Text.isBlank c = true := by
    rcases next_plain_cases current c with ⟨quote, _, place⟩ | ⟨blank, place⟩ | ⟨unblank, _, place⟩
    · simp [place, quote?]
    · simp [place, quote?, blank]
    · simp [place, unblank]
  cases place with
  | between => exact plain []
  | inWord current => exact plain current
  | quoted quote current =>
      rcases next_quoted_cases quote current c with ⟨rfl, place⟩ | ⟨_, place⟩ | ⟨_, _, place⟩
      · simp [place, quote.unblank_mark]
      · simp [place, quote?]
      · simp [place, quote?]
  | escaped current => simp [next, quote?]

theorem after_eq_between_iff (text : Text) :
    between.after text = between ↔
      text = [] ∨
        (between.after text).quote? = none ∧ ∃ c ∈ text.getLast?, Text.isBlank c = true := by
  rcases List.eq_nil_or_concat' text with rfl | ⟨front, last, rfl⟩
  · simp [after]
  · have place : between.after (front ++ [last]) = (between.after front).next last := by
      simp [after]
    rw [place, next_eq_between_iff]
    simp

theorem length_words_behind_nil (place : Place) (begun : place ≠ between) :
    (place.wordsBehind []).length = 1 := by
  cases place with
  | between => exact absurd rfl begun
  | inWord current => rfl
  | quoted quote current => rfl
  | escaped current => rfl

/-- The words to come are those of the text behind exactly between words. From any other place a
letter goes on with the word that has begun. -/
theorem words_behind_splits_iff (place : Place) :
    (∀ back, place.wordsBehind back = place.wordsBehind [] ++ quotedWords back) ↔
      place = between := by
  constructor
  · intro splits
    by_contra begun
    have goesOn : place.next 'x' ≠ between := by
      intro ended
      exact absurd ((next_eq_between_iff place 'x').mp ended).2 (by decide)
    have unended : place.wordEndedBy 'x' = [] := by
      cases place with
      | between => rfl
      | inWord current => rfl
      | quoted quote current => rfl
      | escaped current => rfl
    have alone : (quotedWords ['x']).length = 1 := by decide +kernel
    have counted := congrArg List.length (splits ['x'])
    rw [words_behind_cons, unended, List.nil_append, List.length_append, alone,
      length_words_behind_nil _ goesOn, length_words_behind_nil place begun] at counted
    contradiction
  · intro here back
    rw [here]
    rfl

theorem count_p_next_le (place : Place) (c : Char) :
    (place.wordEndedBy c).flatten.countP Text.isVisible +
        (place.next c).current.countP Text.isVisible ≤
      place.current.countP Text.isVisible + [c].countP Text.isVisible := by
  cases place with
  | between =>
      simp only [next, wordEndedBy]
      rcases next_plain_cases [] c with ⟨quote, _, place⟩ | ⟨_, place⟩ | ⟨_, _, place⟩
      · simp [place, current]
      · simp [place, current]
      · simp [place, current]
  | inWord word =>
      simp only [next, wordEndedBy]
      rcases next_plain_cases word c with ⟨quote, rfl, place⟩ | ⟨blank, place⟩ | ⟨unblank, _, place⟩
      · simp [place, current, quote.unblank_mark]
      · simp [place, current, blank]
      · simp [place, current, unblank, List.countP_cons]
  | quoted quote word =>
      simp only [wordEndedBy]
      rcases next_quoted_cases quote word c with ⟨_, place⟩ | ⟨_, place⟩ | ⟨_, _, place⟩
      · simp [place, current]
      · simp [place, current]
      · simp [place, current, List.countP_cons]
  | escaped word => simp [next, wordEndedBy, current, List.countP_cons]

theorem count_p_words_behind_le (place : Place) (text : Text) :
    (place.wordsBehind text).flatten.countP Text.isVisible ≤
      place.current.countP Text.isVisible + text.countP Text.isVisible := by
  induction text generalizing place with
  | nil =>
      cases place with
      | between => exact Nat.zero_le _
      | inWord word => simp [wordsBehind, quotedWordsFrom, current]
      | quoted quote word => simp [wordsBehind, quotedWordsFrom, current]
      | escaped word => simp [wordsBehind, current]
  | cons c text ih =>
      have step := count_p_next_le place c
      have later := ih (place.next c)
      rw [words_behind_cons, List.flatten_append, List.countP_append, ← List.singleton_append,
        List.countP_append]
      omega

theorem next_of_closed (place : Place) (c : Char) (closed : place.quote? = none) :
    ((c = '"' ∨ c = '\'') ∧ place.wordEndedBy c = [] ∧ (place.next c).current = place.current) ∨
      (¬(c = '"' ∨ c = '\'') ∧ (place.next c).quote? = none) := by
  have plain (word : Text) :
      ((c = '"' ∨ c = '\'') ∧ (inWord word).wordEndedBy c = [] ∧
        (nextPlain word c).current = word) ∨
        (¬(c = '"' ∨ c = '\'') ∧ (nextPlain word c).quote? = none) := by
    rcases next_plain_cases word c with ⟨quote, rfl, place⟩ | ⟨blank, place⟩ | ⟨_, noQuote, place⟩
    · exact Or.inl ⟨quote.mark_cases, by simp [wordEndedBy, quote.unblank_mark],
        by simp [place, current]⟩
    · exact Or.inr ⟨no_quote_of_blank c blank, by simp [place, quote?]⟩
    · exact Or.inr ⟨noQuote, by simp [place, quote?]⟩
  cases place with
  | between => exact (plain []).imp_left fun opens => ⟨opens.1, rfl, opens.2.2⟩
  | inWord word => exact plain word
  | quoted quote word => simp [quote?] at closed
  | escaped word => simp [quote?] at closed

/-- A quote is lost, if none is open before the text. -/
theorem count_p_words_behind_lt (place : Place) (text : Text) (closed : place.quote? = none)
    (quotes : ∃ c ∈ text, c = '"' ∨ c = '\'') :
    (place.wordsBehind text).flatten.countP Text.isVisible <
      place.current.countP Text.isVisible + text.countP Text.isVisible := by
  -- Up to the first quote none is open. It is lost there, and the text behind it gives nothing
  -- back.
  induction text generalizing place with
  | nil => simp at quotes
  | cons c text ih =>
      rw [words_behind_cons, List.flatten_append, List.countP_append, ← List.singleton_append,
        List.countP_append]
      rcases next_of_closed place c closed with ⟨isQuote, unended, kept⟩ | ⟨noQuote, stays⟩
      · have visible : [c].countP Text.isVisible = 1 := by
          rcases isQuote with rfl | rfl <;> decide
        have later := count_p_words_behind_le (place.next c) text
        rw [kept] at later
        rw [unended, visible, List.flatten_nil, List.countP_nil]
        omega
      · have among : ∃ d ∈ text, d = '"' ∨ d = '\'' := by simpa [noQuote] using quotes
        have step := count_p_next_le place c
        have later := ih (place.next c) stays among
        omega

end Place

theorem quoted_words_from_quoteless (current text : Text)
    (quoteless : ∀ c ∈ text, ¬(c = '"' ∨ c = '\'')) :
    quotedWordsFrom current (!current.isEmpty) none text = Text.wordsFrom current text := by
  fun_induction Text.wordsFrom current text with
  | case1 current nothing => simp [quotedWordsFrom, nothing]
  | case2 current begun => simp [quotedWordsFrom, begun]
  | case3 current c rest blank nothing ih =>
      rw [List.forall_mem_cons] at quoteless
      rw [nothing, Bool.not_true, quoted_words_from_blank _ _ c blank, List.isEmpty_iff.mp nothing]
      exact ih quoteless.2
  | case4 current c rest blank begun ih =>
      rw [List.forall_mem_cons] at quoteless
      rw [Bool.eq_false_iff.mpr begun, Bool.not_false, quoted_words_from_end _ _ c blank]
      exact congrArg _ (ih quoteless.2)
  | case5 current c rest visible ih =>
      rw [List.forall_mem_cons] at quoteless
      rw [quoted_words_from_char _ _ _ c (Bool.eq_false_iff.mpr visible) quoteless.1]
      exact ih quoteless.2

theorem quoted_words_eq_words_iff (text : Text) :
    quotedWords text = Text.words text ↔ ∀ c ∈ text, ¬(c = '"' ∨ c = '\'') := by
  constructor
  · intro same c member isQuote
    have fewer := Place.between.count_p_words_behind_lt text rfl ⟨c, member, isQuote⟩
    have all := Text.count_p_words text
    rw [← same] at all
    simp only [Place.wordsBehind, Place.current, all, List.countP_nil, Nat.zero_add] at fewer
    exact absurd fewer (Nat.lt_irrefl _)
  · intro quoteless
    exact quoted_words_from_quoteless [] text quoteless

/-- The words of a text are the words of its front and the words of its back, whatever the back,
exactly if the front stops between words. -/
theorem quoted_words_append_iff (front : Text) :
    (∀ back, quotedWords (front ++ back) = quotedWords front ++ quotedWords back) ↔
      Place.between.after front = .between := by
  have parts (back : Text) : quotedWords (front ++ back) =
      Place.between.wordsEndedBy front ++ (Place.between.after front).wordsBehind back :=
    Place.between.words_behind_append front back
  have whole : quotedWords front =
      Place.between.wordsEndedBy front ++ (Place.between.after front).wordsBehind [] := by
    rw [← parts, List.append_nil]
  rw [← Place.words_behind_splits_iff]
  simp only [parts, whole, List.append_assoc, List.append_cancel_left_eq]

/-- The reader of quoted words gives the plain words of a text exactly if no quote is in the text.
It reads two texts as one exactly as it reads them apart, whatever the second is, if and only if the
first is empty or ends in a blank with no quote open. -/
theorem quoted_words_extend_words :
    (∀ text, quotedWords text = Text.words text ↔ '"' ∉ text ∧ '\'' ∉ text) ∧
      ∀ front, (∀ back, quotedWords (front ++ back) = quotedWords front ++ quotedWords back) ↔
        front = [] ∨ (Place.between.after front).quote? = none ∧
          ∃ c ∈ front.getLast?, Text.isBlank c = true := by
  constructor
  · intro text
    have apart : (∀ c ∈ text, ¬(c = '"' ∨ c = '\'')) ↔ '"' ∉ text ∧ '\'' ∉ text := by
      constructor
      · intro quoteless
        exact ⟨fun member => quoteless _ member (Or.inl rfl),
          fun member => quoteless _ member (Or.inr rfl)⟩
      · rintro ⟨noDouble, noSingle⟩ c member (rfl | rfl)
        · exact noDouble member
        · exact noSingle member
    rw [quoted_words_eq_words_iff, apart]
  · intro front
    rw [quoted_words_append_iff, Place.after_eq_between_iff]

end Argument
end DockerfileAudit
