import DockerfileAudit.Dockerfile.Document

/-!
The lines of texts that are put together. A text whose last line has its ending can be followed by
anything without a change to its lines, and lines that are written out with their endings are read
back as they were.
-/
set_option autoImplicit false

namespace DockerfileAudit
namespace Text

/-- The last line of the text has its ending. -/
def Ended (text : Text) : Prop := text.getLast? = some '\n'

instance : DecidablePred Ended := fun text =>
  inferInstanceAs (Decidable (text.getLast? = some '\n'))

theorem Ended.ne_nil {text : Text} (ended : text.Ended) : text ≠ [] := by
  rintro rfl
  simp [Ended] at ended

theorem ended_iff (text : Text) : text.Ended ↔ ∃ front, text = front ++ ['\n'] :=
  List.getLast?_eq_some_iff

theorem lines_from_feed (current front back : Text) :
    linesFrom current (front ++ '\n' :: back) =
      linesFrom current (front ++ ['\n']) ++ linesFrom [] back := by
  induction front generalizing current with
  | nil => simp [linesFrom]
  | cons c rest ih =>
      by_cases feed : c = '\n'
      · simp [linesFrom, feed, ih]
      · simp [linesFrom, feed, ih]

theorem lines_append (front back : Text) (ended : front.Ended) :
    lines (front ++ back) = lines front ++ lines back := by
  obtain ⟨head, rfl⟩ := (ended_iff front).mp ended
  rw [List.append_assoc]
  exact lines_from_feed [] head back

theorem length_lines_from_feed (current front : Text) :
    (linesFrom current (front ++ ['\n'])).length = front.count '\n' + 1 := by
  induction front generalizing current with
  | nil => simp [linesFrom]
  | cons c rest ih =>
      by_cases feed : c = '\n'
      · simp [linesFrom, feed, ih]
      · simp [linesFrom, feed, ih]

theorem length_lines (text : Text) (ended : text.Ended) :
    (lines text).length = text.count '\n' := by
  obtain ⟨head, rfl⟩ := (ended_iff text).mp ended
  rw [List.count_append, List.count_singleton_self]
  exact length_lines_from_feed [] head

/-- A text that is read back as one line when a line feed follows it. -/
def IsLine (line : Text) : Prop := '\n' ∉ line ∧ line.getLast? ≠ some '\r'

instance : DecidablePred IsLine := fun line =>
  inferInstanceAs (Decidable ('\n' ∉ line ∧ line.getLast? ≠ some '\r'))

def unlines (lines : List Text) : Text := lines.flatMap fun line => line ++ ['\n']

theorem ended_line_reverse (line : Text) (plain : line.getLast? ≠ some '\r') :
    endedLine line.reverse = line := by
  unfold endedLine
  split
  · rename_i rest reversed
    have turned := congrArg List.reverse reversed
    rw [List.reverse_reverse] at turned
    rw [turned] at plain
    simp at plain
  · exact List.reverse_reverse line

theorem lines_from_line (current line back : Text) (whole : '\n' ∉ line) :
    linesFrom current (line ++ '\n' :: back) =
      endedLine (line.reverse ++ current) :: linesFrom [] back := by
  induction line generalizing current with
  | nil => simp [linesFrom]
  | cons c rest ih =>
      have other : c ≠ '\n' := fun feed => whole (by simp [feed])
      have restWhole : '\n' ∉ rest := fun member => whole (by simp [member])
      rw [List.cons_append, linesFrom, if_neg other, ih (c :: current) restWhole]
      simp

theorem lines_more (line rest : Text) (whole : '\n' ∉ line) :
    lines (line ++ '\n' :: rest) = endedLine line.reverse :: lines rest := by
  have read := lines_from_line [] line rest whole
  rw [List.append_nil] at read
  exact read

theorem unlines_cons (line : Text) (others : List Text) :
    unlines (line :: others) = line ++ '\n' :: unlines others := by
  simp [unlines]

theorem lines_unlines (written : List Text) (back : Text)
    (whole : ∀ line ∈ written, '\n' ∉ line) :
    lines (unlines written ++ back) =
      (written.map fun line => endedLine line.reverse) ++ lines back := by
  induction written with
  | nil => rfl
  | cons line others ih =>
      have behind := ih fun other member => whole other (by simp [member])
      rw [unlines_cons, List.append_assoc, List.cons_append, lines_more _ _ (whole line (by simp)),
        behind, List.map_cons, List.cons_append]

theorem lines_unlines_append (written : List Text) (back : Text)
    (proper : ∀ line ∈ written, IsLine line) :
    lines (unlines written ++ back) = written ++ lines back := by
  have same : (written.map fun line => endedLine line.reverse) = written.map id := by
    apply List.map_congr_left
    intro line member
    exact ended_line_reverse line (proper line member).2
  rw [lines_unlines written back fun line member => (proper line member).1, same, List.map_id]

end Text

namespace Document

theorem without_mark_append (front back : Text) (nonempty : front ≠ []) :
    withoutMark (front ++ back) = withoutMark front ++ back := by
  obtain ⟨c, rest, rfl⟩ := List.exists_cons_of_ne_nil nonempty
  simp only [List.cons_append, withoutMark]
  split
  · rfl
  · rfl

theorem without_mark_of_head (text : Text) (unmarked : text.head? ≠ some (Char.ofNat 0xFEFF)) :
    withoutMark text = text := by
  cases text with
  | nil => rfl
  | cons c rest =>
      have other : c ≠ Char.ofNat 0xFEFF := by simpa using unmarked
      simp [withoutMark, other]

theorem without_mark_cases (text : Text) :
    withoutMark text = text ∨ ∃ mark, mark ≠ '\n' ∧ text = mark :: withoutMark text := by
  cases text with
  | nil => exact Or.inl rfl
  | cons c rest =>
      by_cases mark : c = Char.ofNat 0xFEFF
      · refine Or.inr ⟨c, ?_, by simp [withoutMark, mark]⟩
        rw [mark]
        decide
      · exact Or.inl (by simp [withoutMark, mark])

theorem ended_without_mark (text : Text) (ended : text.Ended) : (withoutMark text).Ended := by
  rcases without_mark_cases text with same | ⟨mark, other, whole⟩
  · rw [same]
    exact ended
  · obtain ⟨front, split⟩ := (Text.ended_iff text).mp ended
    rw [whole] at split
    cases front with
    | nil =>
        simp only [List.nil_append, List.cons.injEq] at split
        exact absurd split.1 other
    | cons first front =>
        simp only [List.cons_append, List.cons.injEq] at split
        exact (Text.ended_iff _).mpr ⟨front, split.2⟩

theorem length_lines_without_mark (text : Text) (ended : text.Ended) :
    (Text.lines (withoutMark text)).length = (Text.lines text).length := by
  have sameCount : (withoutMark text).count '\n' = text.count '\n' := by
    rcases without_mark_cases text with same | ⟨mark, other, whole⟩
    · rw [same]
    · have counted := congrArg (List.count '\n') whole
      rw [List.count_cons_of_ne other] at counted
      exact counted.symm
  rw [Text.length_lines _ (ended_without_mark text ended), sameCount, Text.length_lines text ended]

end Document
end DockerfileAudit
