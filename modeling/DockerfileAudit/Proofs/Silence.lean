import DockerfileAudit.Proofs.Heredocs
import DockerfileAudit.Proofs.OneLine

/-!
Comments, blank lines and indentation say nothing. Outside of bodies the reader looks at a line only
after trimming, and a silent line leaves it where it stands; all that an inserted line can change is
the number of the lines behind it. So a run over the lines behind an insertion is the old run with
its numbers moved, and a statement that began before the insertion keeps its number.
-/
set_option autoImplicit false

namespace DockerfileAudit

namespace Text

def AllEnded (text : Text) : Prop := text = [] ∨ text.Ended

theorem lines_append_of_all_ended (front back : Text) (ended : front.AllEnded) :
    lines (front ++ back) = lines front ++ lines back := by
  rcases ended with rfl | ended
  · rfl
  · exact lines_append front back ended

theorem ended_line_cases (raw : Text) :
    endedLine raw.reverse = raw ∨ raw = endedLine raw.reverse ++ ['\r'] := by
  by_cases returned : raw.getLast? = some '\r'
  · obtain ⟨front, rfl⟩ := List.getLast?_eq_some_iff.mp returned
    exact Or.inr (by simp [endedLine])
  · exact Or.inl (ended_line_reverse raw returned)

theorem lines_unended (line : Text) (whole : '\n' ∉ line) (nonempty : line ≠ []) :
    lines line = [line] := by
  rw [lines, lines_from_whole [] line whole (by simpa using nonempty)]
  simp

/-- What is read of a line with something behind it: the line itself, but for a carriage return at
its end. -/
theorem lines_line (raw back : Text) (whole : '\n' ∉ raw)
    (ends : (back = [] ∧ raw ≠ []) ∨ ∃ rest, back = '\n' :: rest) :
    ∃ line, lines (raw ++ back) = line :: lines (back.drop 1) ∧
      (line = raw ∨ raw = line ++ ['\r']) := by
  rcases ends with ⟨rfl, nonempty⟩ | ⟨rest, rfl⟩
  · refine ⟨raw, ?_, Or.inl rfl⟩
    rw [List.append_nil, lines_unended raw whole nonempty]
    rfl
  · exact ⟨endedLine raw.reverse, lines_more raw rest whole, ended_line_cases raw⟩

theorem trim_cons_unblank (c : Char) (rest : Text) (unblank : isBlank c = false) :
    ∃ tail, trim (c :: rest) = c :: tail := by
  have starts : trimStart (c :: rest) = c :: rest := by simp [trimStart, unblank]
  obtain ⟨blanks, whole⟩ := trim_end_prefix (c :: rest)
  unfold trim
  rw [starts]
  cases kept : trimEnd (c :: rest) with
  | nil =>
      have blank := (trim_end_eq_nil_iff _).mp kept c (by simp)
      rw [unblank] at blank
      simp at blank
  | cons d tail =>
      rw [kept, List.cons_append] at whole
      exact ⟨tail, by rw [(List.cons.inj whole).1]⟩

theorem trim_of_near (line raw : Text) (near : line = raw ∨ raw = line ++ ['\r']) :
    trim line = trim raw := by
  rcases near with rfl | rfl
  · rfl
  · exact (trim_append_blanks line ['\r'] (List.forall_mem_singleton.mpr rfl)).symm

end Text

def movedLine (inserted line : Nat) : Nat := if inserted ≤ line then line + 1 else line

theorem moved_line_of_le {inserted line : Nat} (behind : inserted ≤ line) :
    movedLine inserted line = line + 1 := if_pos behind

theorem moved_line_of_lt {inserted line : Nat} (before : line < inserted) :
    movedLine inserted line = line := if_neg (by omega)

def ParseError.moved (inserted : Nat) : ParseError → ParseError
  | .missingArguments line directive => .missingArguments (movedLine inserted line) directive
  | .unterminatedHeredoc line word => .unterminatedHeredoc (movedLine inserted line) word
  | .emptyDocument => .emptyDocument

namespace Document

section Moving

variable {escape : Char}

def Place.moved (inserted : Nat) : Place → Place
  | .between => .between
  | .continued start text => .continued (movedLine inserted start) text
  | .body start statement heredoc later text =>
      .body (movedLine inserted start) statement heredoc later text

def movedStep (inserted : Nat) (outcome : Except ParseError (Place × List Statement)) :
    Except ParseError (Place × List Statement) :=
  (outcome.map fun next => (next.1.moved inserted, next.2)).mapError (ParseError.moved inserted)

theorem settle_moved (inserted start : Nat) (statement : Statement) (heredocs : List Heredoc) :
    settle (movedLine inserted start) statement heredocs =
      ((settle start statement heredocs).1.moved inserted,
        (settle start statement heredocs).2) := by
  cases heredocs with
  | nil => rfl
  | cons heredoc later => rfl

theorem step_line_moved (inserted start : Nat) (sofar trimmed : Text) :
    stepLine escape (movedLine inserted start) sofar trimmed =
      movedStep inserted (stepLine escape start sofar trimmed) := by
  unfold stepLine
  cases Text.before? escape trimmed with
  | some head => rfl
  | none =>
      rcases Statement.of_line_any_number (sofar ++ trimmed) with
        ⟨head, reads⟩ | ⟨directive, refuses⟩
      · simp only [reads, settle_moved]
        rfl
      · simp only [refuses]
        rfl

/-- A line behind the insertion does what it did before, one number later. -/
theorem step_moved (inserted number : Nat) (line : Text) (place : Place)
    (behind : inserted ≤ number) :
    step escape (number + 1) line (place.moved inserted) =
      movedStep inserted (step escape number line place) := by
  cases place with
  | between =>
      simp only [Place.moved, step]
      split
      · rfl
      · rw [← moved_line_of_le behind, step_line_moved]
  | continued start text =>
      simp only [Place.moved, step]
      split
      · rfl
      · rw [step_line_moved]
  | body start statement heredoc later text =>
      simp only [Place.moved, step]
      split
      · rw [settle_moved]
        rfl
      · rfl

theorem finish_moved (inserted : Nat) (place : Place) :
    finish (place.moved inserted) = (finish place).mapError (ParseError.moved inserted) := by
  cases place with
  | between => rfl
  | continued start text =>
      simp only [Place.moved, finish]
      split
      · rfl
      · rcases Statement.of_line_any_number (Text.trim text) with
          ⟨head, reads⟩ | ⟨directive, refuses⟩
        · rw [reads, reads]
          rfl
        · rw [refuses, refuses]
          rfl
  | body start statement heredoc later text => rfl

theorem read_moved (inserted number : Nat) (lines : List Text) (place : Place)
    (behind : inserted ≤ number) :
    read escape (place.moved inserted) (number + 1) lines =
      (read escape place number lines).mapError (ParseError.moved inserted) := by
  induction lines generalizing place number with
  | nil => exact finish_moved inserted place
  | cons line rest ih =>
      have stepped : step escape (number + 1) line (place.moved inserted) = _ :=
        step_moved inserted number line place behind
      cases outcome : step escape number line place with
      | error failure =>
          rw [outcome] at stepped
          rw [read_of_step_error _ _ _ _ _ stepped, read_of_step_error _ _ _ _ _ outcome]
          rfl
      | ok next =>
          rw [outcome] at stepped
          rw [read_of_step_ok _ _ _ _ _ stepped, read_of_step_ok _ _ _ _ _ outcome,
            ih (number + 1) next.1 (by omega)]
          cases read escape next.1 (number + 1) rest with
          | error failure => rfl
          | ok statements => rfl

end Moving

/-- The place after lines, with the statements that they complete, if none of them fails. -/
def walk (escape : Char) :
    Place → (number : Nat) → List Text → Except ParseError (Place × List Statement)
  | place, _, [] => .ok (place, [])
  | place, number, line :: rest =>
      match step escape number line place with
      | .error failure => .error failure
      | .ok (place, done) =>
          (walk escape place (number + 1) rest).map fun after => (after.1, done ++ after.2)

/-- The reader comes to the end of these lines, and stands there outside of bodies. -/
def Reached (escape : Char) (lines : List Text) : Prop :=
  ∃ place done, walk escape .between 1 lines = .ok (place, done) ∧ place.outside = true

section Walking

variable {escape : Char}

theorem walk_cons_ok (number : Nat) (line : Text) (rest : List Text) (place after : Place)
    (done : List Statement) (walked : walk escape place number (line :: rest) = .ok (after, done)) :
    ∃ next early later, step escape number line place = .ok (next, early) ∧
      walk escape next (number + 1) rest = .ok (after, later) ∧ done = early ++ later := by
  unfold walk at walked
  cases stepped : step escape number line place with
  | error failure =>
      rw [stepped] at walked
      simp at walked
  | ok next =>
      rw [stepped] at walked
      dsimp only at walked
      cases behind : walk escape next.1 (number + 1) rest with
      | error failure =>
          rw [behind] at walked
          simp [Except.map] at walked
      | ok last =>
          rw [behind] at walked
          obtain ⟨rfl, rfl⟩ := Prod.mk.inj (Except.ok.inj walked)
          exact ⟨next.1, next.2, last.2, rfl, behind, rfl⟩

theorem add_length_cons (number : Nat) (line : Text) (rest : List Text) :
    number + (line :: rest).length = number + 1 + rest.length := by
  rw [List.length_cons]
  omega

theorem read_of_walk (number : Nat) (front back : List Text) (place after : Place)
    (done : List Statement) (walked : walk escape place number front = .ok (after, done)) :
    read escape place number (front ++ back) =
      (read escape after (number + front.length) back).map (done ++ ·) := by
  induction front generalizing number place done with
  | nil =>
      obtain ⟨rfl, rfl⟩ := Prod.mk.inj (Except.ok.inj walked)
      exact (map_nothing_done _).symm
  | cons line rest ih =>
      obtain ⟨next, early, later, stepped, behind, rfl⟩ := walk_cons_ok number line rest place after
        done walked
      rw [List.cons_append, read_of_step_ok _ _ _ _ _ stepped, ih _ _ _ behind, map_done_twice,
        add_length_cons]

theorem walk_append (number : Nat) (front back : List Text) (place middle after : Place)
    (early later : List Statement) (first : walk escape place number front = .ok (middle, early))
    (second : walk escape middle (number + front.length) back = .ok (after, later)) :
    walk escape place number (front ++ back) = .ok (after, early ++ later) := by
  induction front generalizing number place early with
  | nil =>
      obtain ⟨rfl, rfl⟩ := Prod.mk.inj (Except.ok.inj first)
      exact second
  | cons line rest ih =>
      obtain ⟨next, done, more, stepped, behind, rfl⟩ := walk_cons_ok number line rest place middle
        early first
      rw [add_length_cons] at second
      rw [List.cons_append, walk, stepped]
      dsimp only
      rw [ih (number + 1) next more behind second]
      simp [Except.map]

/-- The statement that is being read began before the line with this number, and each heredoc that
it waits for was opened by a statement. -/
def Place.Proper (number : Nat) : Place → Prop
  | .between => True
  | .continued start _ => start < number
  | .body start _ heredoc later _ =>
      start < number ∧
        ∀ waiting ∈ heredoc :: later, ∃ statement, waiting ∈ Heredoc.opened statement

theorem settle_proper (number start : Nat) (statement : Statement) (heredocs : List Heredoc)
    (begun : start < number)
    (opened : ∀ waiting ∈ heredocs, ∃ statement, waiting ∈ Heredoc.opened statement) :
    (settle start statement heredocs).1.Proper number := by
  cases heredocs with
  | nil => trivial
  | cons heredoc later => exact ⟨begun, opened⟩

theorem step_line_proper (number start : Nat) (sofar trimmed : Text) (next : Place × List Statement)
    (begun : start < number) (stepped : stepLine escape start sofar trimmed = .ok next) :
    next.1.Proper number := by
  unfold stepLine at stepped
  split at stepped
  · rw [← Except.ok.inj stepped]
    exact begun
  · split at stepped
    · simp at stepped
    · rename_i statement reads
      rw [← Except.ok.inj stepped]
      exact settle_proper number start statement _ begun fun waiting member => ⟨statement, member⟩

theorem step_proper (number : Nat) (line : Text) (place : Place) (next : Place × List Statement)
    (proper : place.Proper number) (stepped : step escape number line place = .ok next) :
    next.1.Proper (number + 1) := by
  cases place with
  | between =>
      simp only [step] at stepped
      split at stepped
      · rw [← Except.ok.inj stepped]
        trivial
      · exact step_line_proper _ number _ _ next (by omega) stepped
  | continued start text =>
      have begun : start < number + 1 := Nat.lt_succ_of_lt proper
      simp only [step] at stepped
      split at stepped
      · rw [← Except.ok.inj stepped]
        exact begun
      · exact step_line_proper _ start _ _ next begun stepped
  | body start statement heredoc later text =>
      have begun : start < number + 1 := Nat.lt_succ_of_lt proper.1
      simp only [step] at stepped
      split at stepped
      · rw [← Except.ok.inj stepped]
        exact settle_proper _ start _ later begun fun waiting member =>
          proper.2 waiting (List.mem_cons_of_mem _ member)
      · rw [← Except.ok.inj stepped]
        exact ⟨begun, proper.2⟩

theorem walk_proper (number : Nat) (lines : List Text) (place after : Place) (done : List Statement)
    (proper : place.Proper number) (walked : walk escape place number lines = .ok (after, done)) :
    after.Proper (number + lines.length) := by
  induction lines generalizing number place done with
  | nil =>
      rw [← (Prod.mk.inj (Except.ok.inj walked)).1]
      exact proper
  | cons line rest ih =>
      obtain ⟨next, early, later, stepped, behind, rfl⟩ := walk_cons_ok number line rest place after
        done walked
      have last :=
        ih (number + 1) next later (step_proper number line place _ proper stepped) behind
      rw [add_length_cons]
      exact last

/-- A statement that began before the insertion keeps its number. -/
theorem moved_of_proper (inserted : Nat) (place : Place) (proper : place.Proper inserted) :
    place.moved inserted = place := by
  cases place with
  | between => rfl
  | continued start text => rw [Place.moved, moved_line_of_lt proper]
  | body start statement heredoc later text => rw [Place.moved, moved_line_of_lt proper.1]

theorem map_map_error (done : List Statement) (inserted : Nat)
    (result : Except ParseError (List Statement)) :
    (result.mapError (ParseError.moved inserted)).map (done ++ ·) =
      (result.map (done ++ ·)).mapError (ParseError.moved inserted) := by
  cases result with
  | error failure => rfl
  | ok statements => rfl

theorem read_insert (front back : List Text) (line : Text) (reached : Reached escape front)
    (silence : Silent line) :
    read escape .between 1 (front ++ line :: back) =
      (read escape .between 1 (front ++ back)).mapError (ParseError.moved (front.length + 1)) := by
  obtain ⟨place, done, walked, outside⟩ := reached
  have proper := walk_proper 1 front .between place done trivial walked
  have moved : read escape _ (1 + front.length + 1) back = _ :=
    read_moved (1 + front.length) (1 + front.length) back place (Nat.le_refl _)
  rw [moved_of_proper _ place proper] at moved
  rw [read_of_walk 1 front _ _ _ _ walked, read_of_walk 1 front _ _ _ _ walked,
    read_of_step_ok _ _ _ _ _ (step_silent _ line place outside silence), map_nothing_done, moved,
    map_map_error, Nat.add_comm 1]

/-- Silent lines behind all others change nothing, and no failure is behind them. -/
theorem read_append_silent (front silent : List Text) (reached : Reached escape front)
    (silence : ∀ line ∈ silent, Silent line) :
    read escape .between 1 (front ++ silent) =
      (read escape .between 1 front).mapError (ParseError.moved (front.length + 1)) := by
  obtain ⟨place, done, walked, outside⟩ := reached
  have proper := walk_proper 1 front .between place done trivial walked
  have finished := finish_moved (1 + front.length) place
  rw [moved_of_proper _ place proper] at finished
  have alone := read_of_walk 1 front [] _ _ _ walked
  have quiet : read escape place (1 + front.length) (silent ++ []) = _ :=
    read_silent (1 + front.length) silent [] place outside silence
  rw [List.append_nil] at alone quiet
  rw [read_of_walk 1 front _ _ _ _ walked, alone, quiet]
  simp only [read]
  rw [← map_map_error, Nat.add_comm front.length, ← finished]

/-- Outside of bodies a line counts only as far as trimming leaves it. -/
theorem step_of_same_trim (number : Nat) (line other : Text) (place : Place)
    (outside : place.outside = true) (same : Text.trim line = Text.trim other) :
    step escape number line place = step escape number other place := by
  cases place with
  | between => simp only [step, same]
  | continued start text => simp only [step, same]
  | body start statement heredoc later text => simp [Place.outside] at outside

theorem read_of_same_trim (front back : List Text) (line other : Text)
    (reached : Reached escape front) (same : Text.trim line = Text.trim other) :
    read escape .between 1 (front ++ line :: back) =
      read escape .between 1 (front ++ other :: back) := by
  obtain ⟨place, done, walked, outside⟩ := reached
  rw [read_of_walk 1 front _ _ _ _ walked, read_of_walk 1 front _ _ _ _ walked, read, read,
    step_of_same_trim _ line other place outside same]

theorem walk_append_ok (number : Nat) (front back : List Text) (place after : Place)
    (done : List Statement)
    (walked : walk escape place number (front ++ back) = .ok (after, done)) :
    ∃ middle early later, walk escape place number front = .ok (middle, early) ∧
      walk escape middle (number + front.length) back = .ok (after, later) := by
  induction front generalizing number place done with
  | nil => exact ⟨place, [], done, rfl, walked⟩
  | cons line rest ih =>
      obtain ⟨next, early, later, stepped, behind, rfl⟩ := walk_cons_ok number line _ place after
        done walked
      obtain ⟨middle, first, second, front, back⟩ := ih (number + 1) next later behind
      refine ⟨middle, early ++ first, second, ?_, ?_⟩
      · rw [walk, stepped]
        dsimp only
        rw [front]
        rfl
      · rw [add_length_cons]
        exact back

/-- A line that ends in a carriage return does not end a body, so the return may go unless the line
stays inside of one. -/
theorem step_without_return (number : Nat) (line : Text) (place : Place)
    (next : Place × List Statement) (proper : place.Proper number)
    (stepped : step escape number (line ++ ['\r']) place = .ok next)
    (outside : next.1.outside = true) : step escape number line place = .ok next := by
  have same : Text.trim (line ++ ['\r']) = Text.trim line :=
    Text.trim_append_blanks line ['\r'] (List.forall_mem_singleton.mpr rfl)
  cases place with
  | between => rw [← step_of_same_trim number _ line .between rfl same, stepped]
  | continued start text =>
      rw [← step_of_same_trim number _ line (.continued start text) rfl same, stepped]
  | body start statement heredoc later text =>
      by_cases ended : heredoc.bodyLine (line ++ ['\r']) = heredoc.word
      · obtain ⟨opener, opened⟩ := proper.2 heredoc (by simp)
        have ends := (Body.mk heredoc [] _ (by simp) ended).terminator_is_line opener opened
        simp [Text.IsLine] at ends
      · rw [step_content _ _ _ _ _ _ _ ended] at stepped
        rw [← Except.ok.inj stepped] at outside
        simp [Place.outside] at outside

/-- The last line may lose a carriage return at its end, if the reader is outside of bodies behind
it. -/
theorem reached_without_return (front : List Text) (line other : Text)
    (reached : Reached escape (front ++ [line])) (near : other = line ∨ line = other ++ ['\r']) :
    Reached escape (front ++ [other]) ∧
      read escape .between 1 (front ++ [line]) = read escape .between 1 (front ++ [other]) := by
  rcases near with rfl | rfl
  · exact ⟨reached, rfl⟩
  · obtain ⟨place, done, walked, outside⟩ := reached
    obtain ⟨middle, early, later, first, second⟩ :=
      walk_append_ok 1 front _ .between place done walked
    obtain ⟨next, now, rest, stepped, behind, rfl⟩ := walk_cons_ok _ _ [] middle place later second
    obtain ⟨rfl, rfl⟩ := Prod.mk.inj (Except.ok.inj behind)
    have proper := walk_proper 1 front .between middle early trivial first
    have bare := step_without_return _ other middle _ proper stepped outside
    have walkedBare : walk escape middle (1 + front.length) [other] = .ok (next, now ++ []) := by
      rw [walk, bare]
      rfl
    refine ⟨⟨next, _, walk_append 1 front [other] _ _ _ _ _ first walkedBare, outside⟩, ?_⟩
    rw [read_of_walk 1 front _ _ _ _ first, read_of_walk 1 front _ _ _ _ first,
      read_of_step_ok _ _ _ _ _ stepped, read_of_step_ok _ _ _ _ _ bare]

end Walking

theorem silent_of_same_trim (line other : Text) (same : Text.trim line = Text.trim other)
    (silence : Silent line) : Silent other := by
  unfold Silent at silence ⊢
  rw [← same]
  exact silence

/-- A change to a text that says nothing, with the number of the line that it inserts if it inserts
one. The reader comes to where the change is made, and there it is outside of bodies. -/
inductive SilentEdit (escape : Char) : Text → Option Nat → Text → Prop
  /-- A silent line in front of another line, or behind the last if that has its ending. -/
  | insertLine (front line back : Text) (ended : front.AllEnded)
      (reached : Reached escape (Text.lines front)) (whole : '\n' ∉ line) (silence : Silent line) :
      SilentEdit escape (front ++ back) (some ((Text.lines front).length + 1))
        (front ++ (line ++ '\n' :: back))
  /-- A silent line without an ending behind a text whose lines have theirs. -/
  | appendLine (front line : Text) (ended : front.AllEnded)
      (reached : Reached escape (Text.lines front)) (whole : '\n' ∉ line) (silence : Silent line) :
      SilentEdit escape front (some ((Text.lines front).length + 1)) (front ++ line)
  /-- A silent line behind a last line without an ending, which gets one. -/
  | appendBehind (front last carriage line ending : Text) (ended : front.AllEnded)
      (nonempty : last ≠ []) (lastWhole : '\n' ∉ last)
      (reached : Reached escape (Text.lines (front ++ last)))
      (returns : carriage = [] ∨ carriage = ['\r']) (whole : '\n' ∉ line) (silence : Silent line)
      (ends : ending = [] ∨ ending = ['\n']) :
      SilentEdit escape (front ++ last) (some ((Text.lines (front ++ last)).length + 1))
        (front ++ (last ++ (carriage ++ '\n' :: (line ++ ending))))
  /-- Blanks at the start and at the end of a line, before or behind a carriage return. -/
  | addBlanks (front before line after carriage back : Text) (ended : front.AllEnded)
      (reached : Reached escape (Text.lines front)) (whole : '\n' ∉ line)
      (returns : carriage = [] ∨ carriage = ['\r'])
      (ends : (back = [] ∧ line ++ carriage ≠ []) ∨ ∃ rest, back = '\n' :: rest)
      (blank : ∀ c ∈ before ++ after, Text.isBlank c = true ∧ c ≠ '\n') :
      SilentEdit escape (front ++ (line ++ carriage ++ back)) none
        (front ++ (before ++ line ++ after ++ carriage ++ back))

end Document

def ParseError.movedBy : Option Nat → ParseError → ParseError
  | none, failure => failure
  | some inserted, failure => failure.moved inserted

namespace Document

section Editing

variable {escape : Char}

theorem read_insert_line (front line back : Text) (ended : front.AllEnded)
    (reached : Reached escape (Text.lines front)) (whole : '\n' ∉ line) (silence : Silent line) :
    read escape .between 1 (Text.lines (front ++ (line ++ '\n' :: back))) =
      (read escape .between 1 (Text.lines (front ++ back))).mapError
        (ParseError.moved ((Text.lines front).length + 1)) := by
  obtain ⟨taken, lines, near⟩ := Text.lines_line line ('\n' :: back) whole (Or.inr ⟨back, rfl⟩)
  have quiet := silent_of_same_trim line taken (Text.trim_of_near taken line near).symm silence
  rw [Text.lines_append_of_all_ended front _ ended, Text.lines_append_of_all_ended front _ ended,
    lines]
  exact read_insert (Text.lines front) (Text.lines back) taken reached quiet

theorem silent_lines (line ending : Text) (whole : '\n' ∉ line) (silence : Silent line)
    (ends : ending = [] ∨ ending = ['\n']) :
    ∀ taken ∈ Text.lines (line ++ ending), Silent taken := by
  intro taken member
  by_cases nothing : line = [] ∧ ending = []
  · rw [nothing.1, nothing.2] at member
    simp [Text.lines, Text.linesFrom] at member
  · have closes : (ending = [] ∧ line ≠ []) ∨ ∃ rest, ending = '\n' :: rest := by
      rcases ends with rfl | rfl
      · exact Or.inl ⟨rfl, fun none => nothing ⟨none, rfl⟩⟩
      · exact Or.inr ⟨[], rfl⟩
    obtain ⟨only, lines, near⟩ := Text.lines_line line ending whole closes
    have last : Text.lines (ending.drop 1) = [] := by
      rcases ends with rfl | rfl <;> rfl
    rw [lines, last, List.mem_singleton] at member
    rw [member]
    exact silent_of_same_trim line only (Text.trim_of_near only line near).symm silence

theorem read_append_line (front line : Text) (ended : front.AllEnded)
    (reached : Reached escape (Text.lines front)) (whole : '\n' ∉ line) (silence : Silent line) :
    read escape .between 1 (Text.lines (front ++ line)) =
      (read escape .between 1 (Text.lines front)).mapError
        (ParseError.moved ((Text.lines front).length + 1)) := by
  have silent := silent_lines line [] whole silence (Or.inl rfl)
  rw [List.append_nil] at silent
  rw [Text.lines_append_of_all_ended front _ ended]
  exact read_append_silent (Text.lines front) (Text.lines line) reached silent

theorem read_append_behind (front last carriage line ending : Text) (ended : front.AllEnded)
    (nonempty : last ≠ []) (lastWhole : '\n' ∉ last)
    (reached : Reached escape (Text.lines (front ++ last)))
    (returns : carriage = [] ∨ carriage = ['\r']) (whole : '\n' ∉ line) (silence : Silent line)
    (ends : ending = [] ∨ ending = ['\n']) :
    read escape .between 1
        (Text.lines (front ++ (last ++ (carriage ++ '\n' :: (line ++ ending))))) =
      (read escape .between 1 (Text.lines (front ++ last))).mapError
        (ParseError.moved ((Text.lines (front ++ last)).length + 1)) := by
  have before : Text.lines (front ++ last) = Text.lines front ++ [last] := by
    rw [Text.lines_append_of_all_ended front _ ended, Text.lines_unended last lastWhole nonempty]
  obtain ⟨taken, lines, near⟩ : ∃ taken,
      Text.lines (last ++ (carriage ++ '\n' :: (line ++ ending))) =
        taken :: Text.lines (line ++ ending) ∧ (taken = last ∨ last = taken ++ ['\r']) := by
    rcases returns with rfl | rfl
    · exact Text.lines_line last ('\n' :: (line ++ ending)) lastWhole (Or.inr ⟨_, rfl⟩)
    · have read := Text.lines_more (last ++ ['\r']) (line ++ ending) (by simp [lastWhole])
      rw [List.append_assoc] at read
      exact ⟨last, read.trans (by simp [Text.endedLine]), Or.inl rfl⟩
  rw [before] at reached ⊢
  obtain ⟨reachedTaken, same⟩ := reached_without_return (Text.lines front) last taken reached near
  have silent := silent_lines line ending whole silence ends
  have appended := read_append_silent _ _ reachedTaken silent
  rw [Text.lines_append_of_all_ended front _ ended, lines, List.append_cons, appended, same]
  simp

theorem read_add_blanks (front before line after carriage back : Text) (ended : front.AllEnded)
    (reached : Reached escape (Text.lines front)) (whole : '\n' ∉ line)
    (returns : carriage = [] ∨ carriage = ['\r'])
    (ends : (back = [] ∧ line ++ carriage ≠ []) ∨ ∃ rest, back = '\n' :: rest)
    (blank : ∀ c ∈ before ++ after, Text.isBlank c = true ∧ c ≠ '\n') :
    read escape .between 1 (Text.lines (front ++ (before ++ line ++ after ++ carriage ++ back))) =
      read escape .between 1 (Text.lines (front ++ (line ++ carriage ++ back))) := by
  have returnBlank : ∀ c ∈ carriage, Text.isBlank c = true ∧ c ≠ '\n' := by
    rcases returns with rfl | rfl
    · exact List.forall_mem_nil _
    · exact List.forall_mem_singleton.mpr ⟨rfl, by decide⟩
  have oldWhole : '\n' ∉ line ++ carriage := by
    intro feed
    rcases List.mem_append.mp feed with inside | behind
    · exact whole inside
    · exact (returnBlank _ behind).2 rfl
  have newWhole : '\n' ∉ before ++ line ++ after ++ carriage := by
    intro feed
    simp only [List.append_assoc, List.mem_append] at feed
    rcases feed with first | inside | last | behind
    · exact (blank _ (List.mem_append_left _ first)).2 rfl
    · exact whole inside
    · exact (blank _ (List.mem_append_right _ last)).2 rfl
    · exact (returnBlank _ behind).2 rfl
  have sameTrim :
      Text.trim (before ++ line ++ after ++ carriage) = Text.trim (line ++ carriage) := by
    rw [Text.trim_append_blanks _ carriage fun c member => (returnBlank c member).1,
      Text.trim_append_blanks _ carriage fun c member => (returnBlank c member).1,
      Text.trim_append_blanks _ after fun c member => (blank c (List.mem_append_right _ member)).1,
      Text.trim_blanks_append before _ fun c member => (blank c (List.mem_append_left _ member)).1]
  have newEnds : (back = [] ∧ before ++ line ++ after ++ carriage ≠ []) ∨
      ∃ rest, back = '\n' :: rest := by
    refine ends.imp_left fun closes => ⟨closes.1, ?_⟩
    intro nothing
    apply closes.2
    simp only [List.append_eq_nil_iff] at nothing ⊢
    exact ⟨nothing.1.1.2, nothing.2⟩
  obtain ⟨old, oldLines, oldNear⟩ := Text.lines_line _ back oldWhole ends
  obtain ⟨new, newLines, newNear⟩ := Text.lines_line _ back newWhole newEnds
  rw [Text.lines_append_of_all_ended front _ ended, Text.lines_append_of_all_ended front _ ended,
    oldLines, newLines]
  apply read_of_same_trim _ _ _ _ reached
  rw [Text.trim_of_near new _ newNear, sameTrim, Text.trim_of_near old _ oldNear]

theorem SilentEdit.read_eq {old new : Text} {inserted : Option Nat}
    (edit : SilentEdit escape old inserted new) :
    read escape .between 1 (Text.lines new) =
      (read escape .between 1 (Text.lines old)).mapError (ParseError.movedBy inserted) := by
  cases edit with
  | insertLine front line back ended reached whole silence =>
      exact read_insert_line front line back ended reached whole silence
  | appendLine front line ended reached whole silence =>
      exact read_append_line old line ended reached whole silence
  | appendBehind front last carriage line ending ended nonempty lastWhole reached returns whole
      silence ends =>
      exact read_append_behind front last carriage line ending ended nonempty lastWhole reached
        returns whole silence ends
  | addBlanks front before line after carriage back ended reached whole returns ends blank =>
      rw [read_add_blanks front before line after carriage back ended reached whole returns ends
        blank]
      cases read escape .between 1 (Text.lines (front ++ (line ++ carriage ++ back))) with
      | error failure => rfl
      | ok statements => rfl

end Editing

def markOf (text : Text) : Text :=
  if text.head? = some (Char.ofNat 0xFEFF) then [Char.ofNat 0xFEFF] else []

theorem Silent.head_ne_mark {line : Text} (silence : Silent line) :
    line.head? ≠ some (Char.ofNat 0xFEFF) := by
  intro marked
  cases line with
  | nil => simp at marked
  | cons c rest =>
      have same : c = Char.ofNat 0xFEFF := by simpa using marked
      obtain ⟨tail, trimmed⟩ := Text.trim_cons_unblank c rest (by rw [same]; decide)
      rcases silence with nothing | ⟨comment, hash⟩
      · rw [trimmed] at nothing
        simp at nothing
      · rw [trimmed] at hash
        rw [same] at hash
        exact absurd (List.cons.inj hash).1 (by decide)

theorem head_append_ne (front back : Text) (c : Char) :
    (front ++ back).head? ≠ some c ↔
      front.head? ≠ some c ∧ (front = [] → back.head? ≠ some c) := by
  cases front with
  | nil => simp
  | cons d rest => simp

theorem head_ne_mark_of_blank (blanks : Text)
    (blank : ∀ c ∈ blanks, Text.isBlank c = true ∧ c ≠ '\n') :
    blanks.head? ≠ some (Char.ofNat 0xFEFF) := by
  intro marked
  exact absurd (blank _ (List.mem_of_head? marked)).1 (by decide)

/-- A text does not come to begin with the mark by a change that says nothing. -/
theorem SilentEdit.head_ne_mark {escape : Char} {old new : Text} {inserted : Option Nat}
    (edit : SilentEdit escape old inserted new) (unmarked : old.head? ≠ some (Char.ofNat 0xFEFF)) :
    new.head? ≠ some (Char.ofNat 0xFEFF) := by
  cases edit with
  | insertLine front line back ended reached whole silence =>
      rw [head_append_ne] at unmarked
      rw [head_append_ne, head_append_ne]
      have feed : some '\n' ≠ some (Char.ofNat 0xFEFF) := by decide
      exact ⟨unmarked.1, fun _ => ⟨silence.head_ne_mark, fun _ => feed⟩⟩
  | appendLine front line ended reached whole silence =>
      rw [head_append_ne]
      exact ⟨unmarked, fun _ => silence.head_ne_mark⟩
  | appendBehind front last carriage line ending ended nonempty lastWhole reached returns whole
      silence ends =>
      rw [← List.append_assoc, head_append_ne]
      exact ⟨unmarked, fun nothing => absurd (List.append_eq_nil_iff.mp nothing).2 nonempty⟩
  | addBlanks front before line after carriage back ended reached whole returns ends blank =>
      have beforeHead := head_ne_mark_of_blank before fun c member =>
        blank c (List.mem_append_left _ member)
      have afterHead := head_ne_mark_of_blank after fun c member =>
        blank c (List.mem_append_right _ member)
      simp only [List.append_assoc, head_append_ne front, head_append_ne line] at unmarked
      simp only [List.append_assoc, head_append_ne front, head_append_ne before,
        head_append_ne line, head_append_ne after]
      exact ⟨unmarked.1, fun noFront => ⟨beforeHead, fun _ => ⟨(unmarked.2 noFront).1, fun noLine =>
        ⟨afterHead, fun _ => (unmarked.2 noFront).2 noLine⟩⟩⟩⟩

/-- The mark of a text may stand before any other that begins with none of its own. -/
theorem without_mark_mark_of (text new : Text)
    (unmarked : text.head? ≠ some (Char.ofNat 0xFEFF) → new.head? ≠ some (Char.ofNat 0xFEFF)) :
    withoutMark (markOf text ++ new) = new := by
  by_cases marked : text.head? = some (Char.ofNat 0xFEFF)
  · rw [markOf, if_pos marked]
    rfl
  · rw [markOf, if_neg marked, List.nil_append]
    exact without_mark_of_head new (unmarked marked)

theorem without_mark_of_edit {text new : Text} {inserted : Option Nat}
    (edit : SilentEdit (escapeIn text) (withoutMark text) inserted new) :
    withoutMark (markOf text ++ new) = new := by
  apply without_mark_mark_of
  intro unmarked
  rw [without_mark_of_head text unmarked] at edit
  exact edit.head_ne_mark unmarked

theorem conclude_moved_by (inserted : Option Nat) (outcome : Except ParseError (List Statement)) :
    conclude (outcome.mapError (ParseError.movedBy inserted)) =
      (conclude outcome).mapError (ParseError.movedBy inserted) := by
  cases outcome with
  | error failure => rfl
  | ok statements =>
      cases statements with
      | nil => cases inserted <;> rfl
      | cons first others => rfl

/-- Comments, blank lines and indentation mean nothing outside of bodies. When a silent line is
inserted where the reader stands outside of a body, or blanks are added around a line that it reads
there, and the document still chooses the same escape, then it has the same statements or fails for
the same reason, at a line that is one further exactly if the inserted line stands before it. -/
theorem parse_ignores_silence (text new : Text) (inserted : Option Nat)
    (edit : SilentEdit (escapeIn text) (withoutMark text) inserted new)
    (sameEscape : escapeIn (markOf text ++ new) = escapeIn text) :
    parse (markOf text ++ new) = (parse text).mapError (ParseError.movedBy inserted) := by
  have lines : contentLines (markOf text ++ new) = Text.lines new := by
    rw [contentLines, without_mark_of_edit edit]
  rw [parse_eq_conclude, parse_eq_conclude, sameEscape, lines, edit.read_eq, conclude_moved_by]
  rfl

-- The comment stands between the lines of one statement, and the failure two lines further moves.
theorem parse_ignores_silence_between_continued_lines :
    parse "FROM a\nRUN b \\\n# why\n c\nUSER\n".toList =
      .error (.missingArguments 5 "user".toList) := by
  have reached : Reached '\\' (Text.lines "FROM a\nRUN b \\\n".toList) := ⟨_, _, rfl, rfl⟩
  have edit := SilentEdit.insertLine "FROM a\nRUN b \\\n".toList "# why".toList
    " c\nUSER\n".toList (Or.inr (by decide)) reached (by decide) (Or.inr ⟨_, rfl⟩)
  exact parse_ignores_silence "FROM a\nRUN b \\\n c\nUSER\n".toList _ _ edit rfl

end Document
end DockerfileAudit
