import DockerfileAudit.Proofs.Silence

/-!
The endings of lines. A carriage return right before a line feed belongs to the ending, so a
document says the same with either ending on all of its lines. The last line needs no ending; where
it has one, a further line feed adds an empty line, which says nothing outside of bodies and is the
end of none.
-/
set_option autoImplicit false

namespace DockerfileAudit

namespace Text

/-- A text is one line without an ending, or a line with its ending and a text behind it. -/
@[elab_as_elim]
theorem line_induction {motive : Text → Prop} (last : ∀ line : Text, '\n' ∉ line → motive line)
    (more : ∀ line rest : Text, '\n' ∉ line → motive rest → motive (line ++ '\n' :: rest))
    (text : Text) : motive text := by
  induction count : text.length using Nat.strong_induction_on generalizing text with
  | _ count ih =>
      subst count
      cases cut : cutAt (· = '\n') text with
      | none =>
          have clean := (cut_at_eq_none_iff _ text).mp cut
          apply last
          intro feed
          exact absurd (clean _ feed) (by decide)
      | some parts =>
          obtain ⟨line, rest⟩ := parts
          obtain ⟨c, feed, clean, rfl⟩ := (cut_at_eq_some_iff _ text line rest).mp cut
          have same : c = '\n' := by simpa using feed
          subst same
          apply more
          · intro inside
            exact absurd (clean _ inside) (by decide)
          · exact ih rest.length (by simp; omega) rest rfl

theorem uncut_of_whole (line : Text) (whole : '\n' ∉ line) (c : Char) (member : c ∈ line) :
    decide (c = '\n') = false := by
  rw [decide_eq_false_iff_not]
  rintro rfl
  exact whole member

def withReturns (text : Text) : Text :=
  text.flatMap fun c => if c = '\n' then ['\r', '\n'] else [c]

theorem with_returns_of_whole (line : Text) (whole : '\n' ∉ line) : withReturns line = line := by
  induction line with
  | nil => rfl
  | cons c rest ih =>
      have other : c ≠ '\n' := fun feed => whole (by simp [feed])
      have behind := ih fun member => whole (by simp [member])
      unfold withReturns at behind ⊢
      rw [List.flatMap_cons, if_neg other, behind]
      rfl

theorem with_returns_more (line rest : Text) (whole : '\n' ∉ line) :
    withReturns (line ++ '\n' :: rest) = (line ++ ['\r']) ++ '\n' :: withReturns rest := by
  have front := with_returns_of_whole line whole
  unfold withReturns at front ⊢
  rw [List.flatMap_append, front, List.flatMap_cons, if_pos rfl]
  simp

theorem lines_with_returns (text : Text) (bare : '\r' ∉ text) :
    lines (withReturns text) = lines text := by
  induction text using line_induction with
  | last line whole => rw [with_returns_of_whole line whole]
  | more line rest whole ih =>
      have lineBare : '\r' ∉ line := fun member => bare (by simp [member])
      have restBare : '\r' ∉ rest := fun member => bare (by simp [member])
      have plain : line.getLast? ≠ some '\r' := fun ends => lineBare (List.mem_of_getLast? ends)
      have returned : endedLine (line ++ ['\r']).reverse = line := by simp [endedLine]
      rw [with_returns_more line rest whole, lines_more _ _ (by simp [whole]), returned,
        lines_more line rest whole, ended_line_reverse line plain, ih restBare]

theorem lines_append_feed (text : Text) (plain : text.getLast? ≠ some '\r') :
    lines (text ++ ['\n']) = lines text ∨ lines (text ++ ['\n']) = lines text ++ [[]] := by
  induction text using line_induction with
  | last line whole =>
      by_cases nothing : line = []
      · rw [nothing]
        exact Or.inr rfl
      · left
        rw [lines_more line [] whole, ended_line_reverse line plain,
          lines_unended line whole nothing]
        rfl
  | more line rest whole ih =>
      have restPlain : rest.getLast? ≠ some '\r' := by
        intro ends
        apply plain
        rw [List.append_cons, List.getLast?_append_of_ne_nil _ (List.ne_nil_of_mem
          (List.mem_of_getLast? ends)), ends]
      rw [List.append_assoc, List.cons_append, lines_more _ _ whole, lines_more _ _ whole]
      rcases ih restPlain with same | longer
      · exact Or.inl (by rw [same])
      · exact Or.inr (by rw [longer]; rfl)

end Text

namespace Document

section Blank

variable {escape : Char}

/-- An empty line at the end of the document changes nothing, wherever the reader stands before it.
-/
theorem read_blank (number : Nat) (place : Place) (proper : place.Proper number) :
    read escape place number [[]] = finish place := by
  cases place with
  | between => rfl
  | continued start text =>
      have silent : step escape number [] (.continued start text) = _ :=
        step_silent number [] (.continued start text) rfl (Or.inl rfl)
      rw [read_of_step_ok _ _ _ _ _ silent, map_nothing_done]
      rfl
  | body start statement heredoc later text =>
      obtain ⟨opener, opened⟩ := proper.2 heredoc (by simp)
      have named := (Heredoc.opened_word opener heredoc opened).1
      have empty : heredoc.bodyLine [] = [] := by
        unfold Heredoc.bodyLine
        split <;> rfl
      have content : step escape number [] (.body start statement heredoc later text) = _ :=
        step_content number start statement heredoc later text [] (by rw [empty]; exact named.symm)
      rw [read_of_step_ok _ _ _ _ _ content]
      rfl

theorem read_append_blank (number : Nat) (lines : List Text) (place : Place)
    (proper : place.Proper number) :
    read escape place number (lines ++ [[]]) = read escape place number lines := by
  induction lines generalizing number place with
  | nil => exact read_blank number place proper
  | cons line rest ih =>
      rw [List.cons_append]
      cases stepped : step escape number line place with
      | error failure =>
          rw [read_of_step_error _ _ _ _ _ stepped, read_of_step_error _ _ _ _ _ stepped]
      | ok next =>
          have kept := step_proper number line place next proper stepped
          rw [read_of_step_ok _ _ _ _ _ stepped, read_of_step_ok _ _ _ _ _ stepped,
            ih (number + 1) next.1 kept]

end Blank

theorem escape_of_append_blank (lines : List Text) : escapeOf (lines ++ [[]]) = escapeOf lines := by
  induction lines with
  | nil => rfl
  | cons line rest ih => simp only [List.cons_append, escapeOf, ih]

/-- A document is what its lines are, but for an empty one at the end. -/
theorem parse_of_same_lines (left right : Text)
    (same : contentLines left = contentLines right ∨
      contentLines left = contentLines right ++ [[]]) : parse left = parse right := by
  rw [parse_eq_conclude, parse_eq_conclude, escapeIn, escapeIn]
  rcases same with same | longer
  · rw [same]
  · rw [longer, escape_of_append_blank, read_append_blank 1 _ .between trivial]

theorem without_mark_with_returns (text : Text) :
    withoutMark (Text.withReturns text) = Text.withReturns (withoutMark text) := by
  cases text with
  | nil => rfl
  | cons c rest =>
      by_cases feed : c = '\n'
      · subst feed
        rfl
      · have kept : Text.withReturns (c :: rest) = c :: Text.withReturns rest := by
          simp [Text.withReturns, feed]
        rw [kept]
        by_cases mark : c = Char.ofNat 0xFEFF
        · simp [withoutMark, mark]
        · simp [withoutMark, mark, kept]

theorem get_last_without_mark (text : Text) (c : Char)
    (ends : (withoutMark text).getLast? = some c) : text.getLast? = some c := by
  rcases without_mark_cases text with same | ⟨mark, _, whole⟩
  · rw [← same]
    exact ends
  · rw [whole, ← List.singleton_append, List.getLast?_append_of_ne_nil _ (List.ne_nil_of_mem
      (List.mem_of_getLast? ends)), ends]

theorem without_mark_append_feed (text : Text) :
    withoutMark (text ++ ['\n']) = withoutMark text ++ ['\n'] := by
  cases text with
  | nil => rfl
  | cons c rest => exact without_mark_append (c :: rest) ['\n'] (by simp)

/-- The endings of lines mean nothing. A document with line feeds only says the same when every line
ends in a carriage return and a line feed, its bodies and the lines of its failures included; and
whether or not the last line has an ending, the document says the same when a line feed follows it.
-/
theorem parse_ignores_line_endings (text : Text) :
    ('\r' ∉ text → parse (Text.withReturns text) = parse text) ∧
      (text.getLast? ≠ some '\r' → parse (text ++ ['\n']) = parse text) := by
  refine ⟨?_, ?_⟩
  · intro bare
    have inner : '\r' ∉ withoutMark text := by
      intro member
      rcases without_mark_cases text with same | ⟨mark, _, whole⟩
      · exact bare (same ▸ member)
      · exact bare (whole ▸ List.mem_cons_of_mem _ member)
    apply parse_of_same_lines
    left
    rw [contentLines, without_mark_with_returns, Text.lines_with_returns _ inner]
    rfl
  · intro plain
    have inner : (withoutMark text).getLast? ≠ some '\r' := by
      intro ends
      exact plain (get_last_without_mark text '\r' ends)
    apply parse_of_same_lines
    rw [contentLines, without_mark_append_feed]
    exact Text.lines_append_feed _ inner

-- The body has a comment of its own, and in the second document it is open where the line feed is
-- added.
theorem parse_ignores_line_endings_of_bodies :
    parse "RUN <<E\r\n# b\r\nE\r\nUSER".toList = .error (.missingArguments 4 "user".toList) ∧
      parse "FROM a\nRUN <<-E\n\tb\n\n".toList = .error (.unterminatedHeredoc 2 "E".toList) := by
  have bare := (parse_ignores_line_endings "RUN <<E\n# b\nE\nUSER".toList).1 (by decide)
  have plain := (parse_ignores_line_endings "FROM a\nRUN <<-E\n\tb\n".toList).2 (by decide)
  refine ⟨?_, ?_⟩
  · exact bare.trans (by rfl)
  · exact plain.trans (by rfl)

end Document
end DockerfileAudit
