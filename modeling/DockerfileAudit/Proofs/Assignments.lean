import DockerfileAudit.Proofs.OneLine
import Mathlib.Data.Bool.AllAny

/-!
Names with quoted values. A value may be written between double quotes, where a backslash stands
before each double quote and each backslash, or between single quotes if it holds none. The reader
of words takes the quotes off again, and the first equals sign of a word ends its name.
-/
set_option autoImplicit false

namespace DockerfileAudit
namespace Argument

inductive Quote where
  | double
  | single
deriving DecidableEq

namespace Quote

/-- A value with a backslash before each double quote and each backslash. -/
def escape (value : Text) : Text :=
  value.flatMap fun c => if c = '"' ∨ c = '\\' then ['\\', c] else [c]

def mark : Quote → Char
  | .double => '"'
  | .single => '\''

theorem mark_cases (quote : Quote) : quote.mark = '"' ∨ quote.mark = '\'' := by
  cases quote with
  | double => exact Or.inl rfl
  | single => exact Or.inr rfl

def inner : Quote → Text → Text
  | .double, value => escape value
  | .single, value => value

def write (quote : Quote) (value : Text) : Text :=
  quote.mark :: (quote.inner value ++ [quote.mark])

end Quote

structure Assignment where
  name : Text
  value : Text
  quote : Quote
  plain : ∀ c ∈ name, Text.isBlank c = false ∧ c ≠ '=' ∧ c ≠ '"' ∧ c ≠ '\''
  whole : '\n' ∉ value
  fits : quote = .single → '\'' ∉ value

structure Gap where
  text : Text
  nonempty : text ≠ []
  blank : ∀ c ∈ text, Text.isBlank c = true
  whole : '\n' ∉ text

namespace Assignment

def written (assignment : Assignment) : Text :=
  assignment.name ++ '=' :: assignment.quote.write assignment.value

def word (assignment : Assignment) : Text := assignment.name ++ '=' :: assignment.value

def tokens (assignment : Assignment) : List Text := [assignment.name, assignment.value]

end Assignment

def writeAssignments (first : Assignment) (others : List (Gap × Assignment)) : Text :=
  first.written ++ others.flatMap fun next => next.1.text ++ next.2.written

section Steps

variable (current : Text) (inside : Bool) (rest : Text)

theorem quoted_words_from_open (mark : Char) (isQuote : mark = '"' ∨ mark = '\'') :
    quotedWordsFrom current inside none (mark :: rest) =
      quotedWordsFrom current true (some mark) rest := by
  rw [quotedWordsFrom.eq_def]
  simp only [if_pos isQuote]

theorem quoted_words_from_close (mark : Char) :
    quotedWordsFrom current inside (some mark) (mark :: rest) =
      quotedWordsFrom current inside none rest := by
  rw [quotedWordsFrom.eq_def]
  simp only [if_true]

theorem quoted_words_from_escaped (c : Char) :
    quotedWordsFrom current inside (some '"') ('\\' :: c :: rest) =
      quotedWordsFrom (c :: current) inside (some '"') rest := by
  rw [quotedWordsFrom.eq_def]
  simp

theorem quoted_words_from_quoted (mark c : Char) (other : c ≠ mark)
    (plain : ¬(mark = '"' ∧ c = '\\')) :
    quotedWordsFrom current inside (some mark) (c :: rest) =
      quotedWordsFrom (c :: current) inside (some mark) rest := by
  rw [quotedWordsFrom.eq_def]
  simp only [if_neg other, if_neg plain]

theorem quoted_words_from_char (c : Char) (unblank : Text.isBlank c = false)
    (noQuote : ¬(c = '"' ∨ c = '\'')) :
    quotedWordsFrom current inside none (c :: rest) =
      quotedWordsFrom (c :: current) true none rest := by
  rw [quotedWordsFrom.eq_def]
  simp [noQuote, unblank]

theorem no_quote_of_blank (c : Char) (blank : Text.isBlank c = true) : ¬(c = '"' ∨ c = '\'') := by
  rintro (rfl | rfl)
  · exact absurd blank (by decide)
  · exact absurd blank (by decide)

theorem quoted_words_from_end (c : Char) (blank : Text.isBlank c = true) :
    quotedWordsFrom current true none (c :: rest) =
      current.reverse :: quotedWordsFrom [] false none rest := by
  rw [quotedWordsFrom.eq_def]
  simp [no_quote_of_blank c blank, blank]

theorem quoted_words_from_blank (c : Char) (blank : Text.isBlank c = true) :
    quotedWordsFrom current false none (c :: rest) = quotedWordsFrom current false none rest := by
  rw [quotedWordsFrom.eq_def]
  simp [no_quote_of_blank c blank, blank]

theorem quoted_words_from_plain (text : Text)
    (plain : ∀ c ∈ text, Text.isBlank c = false ∧ ¬(c = '"' ∨ c = '\'')) :
    quotedWordsFrom current true none (text ++ rest) =
      quotedWordsFrom (text.reverse ++ current) true none rest := by
  induction text generalizing current with
  | nil => rfl
  | cons c text ih =>
      obtain ⟨unblank, noQuote⟩ := plain c (by simp)
      rw [List.cons_append, quoted_words_from_char _ _ _ c unblank noQuote,
        ih _ fun d member => plain d (by simp [member])]
      simp

theorem quoted_words_from_double (value : Text) :
    quotedWordsFrom current true (some '"') (Quote.escape value ++ '"' :: rest) =
      quotedWordsFrom (value.reverse ++ current) true none rest := by
  induction value generalizing current with
  | nil => exact quoted_words_from_close current true rest '"'
  | cons c value ih =>
      have later := ih (c :: current)
      unfold Quote.escape at later ⊢
      rw [List.flatMap_cons, List.append_assoc]
      by_cases special : c = '"' ∨ c = '\\'
      · rw [if_pos special, List.cons_append, List.cons_append, List.nil_append,
          quoted_words_from_escaped, later]
        simp
      · have other : c ≠ '"' := fun quote => special (Or.inl quote)
        rw [if_neg special, List.cons_append, List.nil_append,
          quoted_words_from_quoted _ _ _ _ c other fun escape => special (Or.inr escape.2), later]
        simp

theorem quoted_words_from_single (value : Text) (fits : '\'' ∉ value) :
    quotedWordsFrom current true (some '\'') (value ++ '\'' :: rest) =
      quotedWordsFrom (value.reverse ++ current) true none rest := by
  induction value generalizing current with
  | nil => exact quoted_words_from_close current true rest '\''
  | cons c value ih =>
      have other : c ≠ '\'' := fun quote => fits (by simp [quote])
      rw [List.cons_append, quoted_words_from_quoted _ _ _ _ c other (by simp),
        ih (c :: current) fun member => fits (by simp [member])]
      simp

theorem quoted_words_from_write (quote : Quote) (value : Text)
    (fits : quote = .single → '\'' ∉ value) :
    quotedWordsFrom current inside none (quote.write value ++ rest) =
      quotedWordsFrom (value.reverse ++ current) true none rest := by
  unfold Quote.write
  rw [List.cons_append, List.append_assoc, quoted_words_from_open _ _ _ _ quote.mark_cases]
  cases quote with
  | double => exact quoted_words_from_double current rest value
  | single => exact quoted_words_from_single current rest value (fits rfl)

theorem quoted_words_from_blanks (text : Text) (blank : ∀ c ∈ text, Text.isBlank c = true) :
    quotedWordsFrom current false none (text ++ rest) =
      quotedWordsFrom current false none rest := by
  induction text with
  | nil => rfl
  | cons c text ih =>
      rw [List.cons_append, quoted_words_from_blank _ _ c (blank c (by simp)),
        ih fun d member => blank d (by simp [member])]

theorem quoted_words_from_gap (gap : Gap) :
    quotedWordsFrom current true none (gap.text ++ rest) =
      current.reverse :: quotedWordsFrom [] false none rest := by
  obtain ⟨text, nonempty, blank, _⟩ := gap
  obtain ⟨c, more, rfl⟩ := List.exists_cons_of_ne_nil nonempty
  rw [List.cons_append, quoted_words_from_end _ _ c (blank c (by simp)),
    quoted_words_from_blanks _ _ more fun d member => blank d (by simp [member])]

end Steps

theorem Assignment.plain_start (assignment : Assignment) (c : Char)
    (member : c ∈ assignment.name ++ ['=']) :
    Text.isBlank c = false ∧ ¬(c = '"' ∨ c = '\'') := by
  rcases List.mem_append.mp member with inName | equals
  · obtain ⟨unblank, _, noDouble, noSingle⟩ := assignment.plain c inName
    exact ⟨unblank, by simp [noDouble, noSingle]⟩
  · rw [List.mem_singleton.mp equals]
    decide

theorem Assignment.written_eq (assignment : Assignment) (rest : Text) :
    assignment.written ++ rest = (assignment.name ++ ['=']) ++
      (assignment.quote.write assignment.value ++ rest) := by
  simp [written]

theorem quoted_words_from_written (assignment : Assignment) (rest : Text) :
    quotedWordsFrom [] false none (assignment.written ++ rest) =
      quotedWordsFrom assignment.word.reverse true none rest := by
  have plain := assignment.plain_start
  have whole := assignment.written_eq rest
  have named : (assignment.name ++ ['=']).reverse = '=' :: assignment.name.reverse := by simp
  obtain ⟨c, more, starts⟩ := List.exists_cons_of_ne_nil
    (List.append_ne_nil_of_right_ne_nil assignment.name (List.cons_ne_nil '=' []))
  rw [starts] at plain whole named
  rw [whole, List.cons_append, quoted_words_from_char _ _ _ c (plain c (by simp)).1
      (plain c (by simp)).2,
    quoted_words_from_plain _ _ more fun d member => plain d (by simp [member]),
    quoted_words_from_write _ _ _ _ _ assignment.fits]
  rw [List.reverse_cons] at named
  simp [Assignment.word, named]

theorem quoted_words_write_assignments (first : Assignment) (others : List (Gap × Assignment)) :
    quotedWords (writeAssignments first others) =
      (first :: others.map Prod.snd).map Assignment.word := by
  unfold quotedWords writeAssignments
  rw [quoted_words_from_written]
  -- The word that is open at each gap is the assignment before it.
  induction others generalizing first with
  | nil => simp [quotedWordsFrom]
  | cons next others ih =>
      rw [List.flatMap_cons, List.append_assoc, quoted_words_from_gap, quoted_words_from_written,
        ih next.2, List.reverse_reverse]
      rfl

theorem name_and_value_word (assignment : Assignment) :
    nameAndValue assignment.word = assignment.tokens := by
  have cut : Text.cutAt (· = '=') assignment.word = some (assignment.name, assignment.value) := by
    rw [Text.cut_at_eq_some_iff]
    refine ⟨'=', by decide, ?_, rfl⟩
    intro c member
    exact decide_eq_false (assignment.plain c member).2.1
  rw [nameAndValue, cut]
  rfl

theorem name_values_write_assignments (first : Assignment) (others : List (Gap × Assignment)) :
    nameValues (writeAssignments first others) =
      (first :: others.map Prod.snd).flatMap Assignment.tokens := by
  have paired : first.word.contains '=' = true := by simp [Assignment.word]
  have tokens : ∀ assignments : List Assignment,
      (assignments.map Assignment.word).flatMap nameAndValue =
        assignments.flatMap Assignment.tokens := by
    intro assignments
    rw [List.flatMap_map]
    simp only [name_and_value_word]
  rw [nameValues, quoted_words_write_assignments, List.map_cons]
  dsimp only
  rw [if_pos paired, ← List.map_cons, tokens]

theorem of_text_of_takes_pairs (directive text : Text) (takesPairs : directive ∈ pairDirectives) :
    ofText directive text = nameValues text := by
  have apart : ∀ name ∈ pairDirectives, name ∉ commandDirectives ∧ name ∉ pathDirectives := by
    decide
  obtain ⟨noCommand, noPath⟩ := apart directive takesPairs
  rw [ofText, if_neg noCommand, if_neg noPath, if_pos takesPairs]

theorem of_text_write_assignments (directive : Text) (takesPairs : directive ∈ pairDirectives)
    (first : Assignment) (others : List (Gap × Assignment)) :
    ofText directive (writeAssignments first others) =
      (first :: others.map Prod.snd).flatMap Assignment.tokens := by
  rw [of_text_of_takes_pairs directive _ takesPairs, name_values_write_assignments]

theorem Quote.feed_not_mem_inner (quote : Quote) (value : Text) (whole : '\n' ∉ value) :
    '\n' ∉ quote.inner value := by
  cases quote with
  | single => exact whole
  | double =>
      intro member
      obtain ⟨c, among, made⟩ := List.mem_flatMap.mp member
      split at made
      · simp only [List.mem_cons, List.not_mem_nil, or_false] at made
        rcases made with backslash | same
        · exact absurd backslash (by decide)
        · exact whole (same ▸ among)
      · exact whole (List.mem_singleton.mp made ▸ among)

theorem Assignment.feed_not_mem_written (assignment : Assignment) :
    '\n' ∉ assignment.written := by
  intro member
  have inner := assignment.quote.feed_not_mem_inner assignment.value assignment.whole
  have noMark : '\n' ≠ assignment.quote.mark := by
    rcases assignment.quote.mark_cases with same | same
    · rw [same]
      decide
    · rw [same]
      decide
  have whole := assignment.written_eq []
  rw [List.append_nil] at whole
  rw [whole, List.append_nil] at member
  rcases List.mem_append.mp member with start | value
  · exact absurd (assignment.plain_start _ start).1 (by decide)
  · simp only [Quote.write, List.mem_cons, List.mem_append, List.not_mem_nil, or_false] at value
    rcases value with opening | inside | closing
    · exact noMark opening
    · exact inner inside
    · exact noMark closing

theorem feed_not_mem_write_assignments (first : Assignment) (others : List (Gap × Assignment)) :
    '\n' ∉ writeAssignments first others := by
  intro member
  rcases List.mem_append.mp member with here | later
  · exact first.feed_not_mem_written here
  · obtain ⟨⟨gap, assignment⟩, _, inside⟩ := List.mem_flatMap.mp later
    rcases List.mem_append.mp inside with blank | written
    · exact gap.whole blank
    · exact assignment.feed_not_mem_written written

theorem write_assignments_ends (first : Assignment) (others : List (Gap × Assignment)) :
    ∃ quote : Quote, (writeAssignments first others).getLast? = some quote.mark := by
  have last (front : Text) (assignment : Assignment) :
      (front ++ assignment.written).getLast? = some assignment.quote.mark := by
    have regrouped : front ++ assignment.written = front ++ assignment.name ++
        '=' :: assignment.quote.mark :: assignment.quote.inner assignment.value ++
          [assignment.quote.mark] := by
      simp [Assignment.written, Quote.write]
    rw [regrouped, List.getLast?_concat]
  rcases List.eq_nil_or_concat others with rfl | ⟨before, ⟨gap, assignment⟩, rfl⟩
  · exact ⟨first.quote, by simpa [writeAssignments] using last [] first⟩
  · refine ⟨assignment.quote, ?_⟩
    have whole := last (writeAssignments first before ++ gap.text) assignment
    simpa [writeAssignments] using whole

theorem write_assignments_starts (first : Assignment) (others : List (Gap × Assignment)) :
    ∃ c ∈ (writeAssignments first others).head?, Text.isBlank c = false := by
  have whole := first.written_eq (others.flatMap fun next => next.1.text ++ next.2.written)
  obtain ⟨c, more, starts⟩ := List.exists_cons_of_ne_nil
    (List.append_ne_nil_of_right_ne_nil first.name (List.cons_ne_nil '=' []))
  have plain := first.plain_start c (by simp [starts])
  rw [starts] at whole
  exact ⟨c, by simp [writeAssignments, whole], plain.1⟩

end Argument

namespace Document

open Argument (Assignment Gap writeAssignments)

theorem one_line_write_assignments (first : Assignment) (others : List (Gap × Assignment)) :
    OneLine (writeAssignments first others) := by
  obtain ⟨quote, last⟩ := Argument.write_assignments_ends first others
  have starts := Argument.write_assignments_starts first others
  refine ⟨⟨starts, ⟨quote.mark, last, ?_⟩⟩,
    Argument.feed_not_mem_write_assignments first others, ?_⟩
  · cases quote <;> decide
  · rw [last]
    cases quote <;> decide

/-- Behind a directive that takes names and values, in any letters, quoting is undone: a line of
assignments comes to one statement with each name and each value as they were before they were
written, whatever the values hold and however the assignments are set apart. -/
theorem parse_undoes_quoting (word directive : Text) (first : Assignment)
    (others : List (Gap × Assignment)) (ending : Text)
    (named : Text.sameAscii word directive = true)
    (takesPairs : directive ∈ Argument.pairDirectives) (ends : ending ∈ Text.lineEndings) :
    parse (command word (writeAssignments first others) ++ ending) =
      .ok [⟨directive, [], (first :: others.map Prod.snd).flatMap fun assignment =>
        [assignment.name, assignment.value]⟩] := by
  have pairs : ∀ name ∈ Argument.pairDirectives, Text.IsKeyword name ∧
      name ∉ Statement.flagDirectives ∧ name ∉ Heredoc.directives := by decide
  obtain ⟨isKeyword, noFlags, noHeredocs⟩ := pairs directive takesPairs
  have args := Argument.of_text_write_assignments directive takesPairs first others
  have whole := parse_command isKeyword named (one_line_write_assignments first others)
    (fun flags => absurd flags noFlags) (by simp [args, Assignment.tokens]) ending ends
  rw [args, Heredoc.opened, if_neg noHeredocs] at whole
  exact whole

/-- Values with an equals sign, quotes of both kinds, a backslash at the end, and nothing. -/
def hardAssignments : Assignment × List (Gap × Assignment) :=
  (⟨"a\\b".toList, "x = \"'y\\".toList, .double, List.all_iff_forall_prop.mp (by decide),
      by decide, by decide⟩,
    [(⟨"\t\u00a0 ".toList, by decide, List.all_eq_true.mp (by decide), by decide⟩,
      ⟨"#c".toList, "\"\\".toList, .single, List.all_iff_forall_prop.mp (by decide), by decide,
        by decide⟩),
    (⟨" ".toList, by decide, List.all_eq_true.mp (by decide), by decide⟩,
      ⟨"--d".toList, [], .double, List.all_iff_forall_prop.mp (by decide), by decide,
        by decide⟩)])

theorem parse_undoes_hard_quoting :
    parse (command "Env".toList (writeAssignments hardAssignments.1 hardAssignments.2) ++
        ['\r', '\n']) =
      .ok [⟨"env".toList, [], ["a\\b".toList, "x = \"'y\\".toList, "#c".toList, "\"\\".toList,
        "--d".toList, []]⟩] :=
  parse_undoes_quoting "Env".toList "env".toList hardAssignments.1 hardAssignments.2 ['\r', '\n']
    (by decide) (by decide) (by decide)

end Document
end DockerfileAudit
