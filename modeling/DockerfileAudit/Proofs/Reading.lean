import DockerfileAudit.Proofs.Layout

/-!
The reader follows the line grammar. One lemma says what the reader does with each kind of line,
then what it does with a whole part of a layout; so a document comes to exactly what its layout
says, with every line used once and every failure at the first line of its statement.
-/
set_option autoImplicit false

namespace DockerfileAudit
namespace Document

variable {escape : Char}

theorem map_nothing_done (result : Except ParseError (List Statement)) :
    result.map ([] ++ ·) = result := by
  cases result <;> rfl

theorem map_done_twice (first second : List Statement)
    (result : Except ParseError (List Statement)) :
    (result.map (second ++ ·)).map (first ++ ·) = result.map (first ++ second ++ ·) := by
  cases result with
  | error failure => rfl
  | ok statements => simp [Except.map]

theorem read_of_step_ok (number : Nat) (line : Text) (rest : List Text) (place : Place)
    (next : Place × List Statement) (stepped : step escape number line place = .ok next) :
    read escape place number (line :: rest) =
      (read escape next.1 (number + 1) rest).map (next.2 ++ ·) := by
  simp only [read, stepped]

theorem read_of_step_error (number : Nat) (line : Text) (rest : List Text) (place : Place)
    (failure : ParseError) (stepped : step escape number line place = .error failure) :
    read escape place number (line :: rest) = .error failure := by
  simp only [read, stepped]

namespace Place

/-- A place in front of a line that is no part of a body. -/
def outside : Place → Bool
  | .between => true
  | .continued _ _ => true
  | .body _ _ _ _ _ => false

/-- The first line of the statement that the line with this number belongs to. -/
def start (number : Nat) : Place → Nat
  | .continued start _ => start
  | _ => number

def text : Place → Text
  | .continued _ text => text
  | _ => []

end Place

theorem step_silent (number : Nat) (line : Text) (place : Place) (outside : place.outside = true)
    (silence : Silent line) : step escape number line place = .ok (place, []) := by
  have quiet := (is_silent_iff line).mpr silence
  cases place with
  | between => simp [step, quiet]
  | continued start text => simp [step, quiet]
  | body start statement heredoc later text => simp [Place.outside] at outside

theorem step_speaking (number : Nat) (line : Text) (place : Place) (outside : place.outside = true)
    (speaks : ¬Silent line) :
    step escape number line place =
      stepLine escape (place.start number) place.text (Text.trim line) := by
  have loud : isSilent (Text.trim line) = false := by
    rw [← is_silent_iff] at speaks
    simpa using speaks
  cases place with
  | between => simp [step, loud, Place.start, Place.text]
  | continued start text => simp [step, loud, Place.start, Place.text]
  | body start statement heredoc later text => simp [Place.outside] at outside

theorem step_line_continued (start : Nat) (sofar : Text) (continued : Continued escape) :
    stepLine escape start sofar (Text.trim continued.line) =
      .ok (.continued start (sofar ++ continued.piece), []) := by
  obtain ⟨head, whole⟩ := List.getLast?_eq_some_iff.mp continued.continues
  have found := (Text.before_eq_some_iff escape _ head).mpr whole
  have dropped : (Text.trim continued.line).dropLast = head := by simp [whole]
  simp only [stepLine, found, Continued.piece, dropped, List.append_assoc]

theorem step_line_complete (start : Nat) (sofar line : Text) (complete : ¬Continues escape line) :
    stepLine escape start sofar (Text.trim line) =
      (Statement.ofLine (sofar ++ Text.trim line) start).map fun statement =>
        settle start statement (Heredoc.opened statement) := by
  have missing := (Text.before_eq_none_iff escape (Text.trim line)).mpr complete
  simp only [stepLine, missing]
  cases Statement.ofLine (sofar ++ Text.trim line) start with
  | error failure => rfl
  | ok statement => rfl

theorem read_silent (number : Nat) (silent rest : List Text) (place : Place)
    (outside : place.outside = true) (silence : ∀ line ∈ silent, Silent line) :
    read escape place number (silent ++ rest) =
      read escape place (number + silent.length) rest := by
  induction silent generalizing number with
  | nil => simp
  | cons line silent ih =>
      rw [List.cons_append, read_of_step_ok _ _ _ _ _
        (step_silent number line place outside (silence line (by simp))), map_nothing_done,
        ih (number + 1) fun other member => silence other (by simp [member]), List.length_cons]
      congr 1
      omega

theorem read_continued (number : Nat) (place : Place) (outside : place.outside = true)
    (continued : Continued escape) (rest : List Text) :
    read escape place number (continued.lines ++ rest) =
      read escape (.continued (place.start number) (place.text ++ continued.piece))
        (number + continued.lines.length) rest := by
  have stepped : step escape number continued.line place = _ :=
    step_speaking number continued.line place outside continued.speaks
  rw [step_line_continued] at stepped
  rw [Continued.lines, List.cons_append, read_of_step_ok _ _ _ _ _ stepped, map_nothing_done,
    read_silent _ _ _ _ rfl continued.silence, List.length_cons]
  congr 1
  omega

theorem read_all_continued (number start : Nat) (sofar : Text)
    (continued : List (Continued escape)) (rest : List Text) :
    read escape (.continued start sofar) number (continued.flatMap Continued.lines ++ rest) =
      read escape (.continued start (sofar ++ continued.flatMap Continued.piece))
        (number + (continued.flatMap Continued.lines).length) rest := by
  induction continued generalizing number sofar with
  | nil => simp
  | cons first others ih =>
      rw [List.flatMap_cons, List.append_assoc, read_continued _ _ rfl]
      simp only [Place.start, Place.text]
      rw [ih]
      simp only [List.flatMap_cons, List.length_append, List.append_assoc, Nat.add_assoc]

/-- What the reader comes to after a statement whose bodies begin at line `number`. -/
def readSettled (escape : Char) (start : Nat) (statement : Statement) (heredocs : List Heredoc)
    (number : Nat) (rest : List Text) : Except ParseError (List Statement) :=
  (read escape (settle start statement heredocs).1 number rest).map
    ((settle start statement heredocs).2 ++ ·)

theorem read_last (number : Nat) (place : Place) (outside : place.outside = true) (line : Text)
    (rest : List Text) (speaks : ¬Silent line) (complete : ¬Continues escape line) :
    read escape place number (line :: rest) =
      (Statement.ofLine (place.text ++ Text.trim line) (place.start number)).bind fun statement =>
        readSettled escape (place.start number) statement (Heredoc.opened statement)
          (number + 1) rest := by
  have stepped : step escape number line place = _ :=
    step_speaking number line place outside speaks
  rw [step_line_complete _ _ _ complete] at stepped
  cases reads : Statement.ofLine (place.text ++ Text.trim line) (place.start number) with
  | error failure =>
      rw [reads] at stepped
      exact read_of_step_error _ _ _ _ _ stepped
  | ok statement =>
      rw [reads] at stepped
      exact read_of_step_ok _ _ _ _ _ stepped

theorem read_logical (number : Nat) (logical : LogicalLine escape) (rest : List Text) :
    read escape .between number (logical.lines ++ rest) =
      (Statement.ofLine logical.text number).bind fun statement =>
        readSettled escape number statement (Heredoc.opened statement)
          (number + logical.lines.length) rest := by
  unfold LogicalLine.lines LogicalLine.text
  cases logical.continued with
  | nil => exact read_last number .between rfl logical.last rest logical.speaks logical.complete
  | cons first others =>
      rw [List.flatMap_cons, List.append_assoc, List.append_assoc, read_continued _ _ rfl,
        read_all_continued, List.cons_append, List.nil_append,
        read_last _ _ rfl _ _ logical.speaks logical.complete]
      simp only [Place.start, Place.text, List.nil_append, List.flatMap_cons, List.length_append,
        List.length_cons, List.length_nil, List.append_assoc, Nat.add_assoc]

theorem read_settled_open (number start : Nat) (statement : Statement) (heredoc : Heredoc)
    (later : List Heredoc) (rest : List Text) :
    readSettled escape start statement (heredoc :: later) number rest =
      read escape (.body start statement heredoc later []) number rest :=
  map_nothing_done _

theorem step_content (number start : Nat) (statement : Statement) (heredoc : Heredoc)
    (later : List Heredoc) (text line : Text) (unended : heredoc.bodyLine line ≠ heredoc.word) :
    step escape number line (.body start statement heredoc later text) =
      .ok (.body start statement heredoc later
        (text ++ (heredoc.bodyLine line ++ ['\n'])), []) := by
  simp [step, unended]

theorem step_terminator (number start : Nat) (statement : Statement) (heredoc : Heredoc)
    (later : List Heredoc) (text line : Text) (ended : heredoc.bodyLine line = heredoc.word) :
    step escape number line (.body start statement heredoc later text) =
      .ok (settle start { statement with args := statement.args ++ [text] } later) := by
  simp [step, ended]

theorem read_content (number start : Nat) (statement : Statement) (heredoc : Heredoc)
    (later : List Heredoc) (text : Text) (content rest : List Text)
    (unended : ∀ line ∈ content, heredoc.bodyLine line ≠ heredoc.word) :
    read escape (.body start statement heredoc later text) number (content ++ rest) =
      read escape
        (.body start statement heredoc later
          (text ++ content.flatMap fun line => heredoc.bodyLine line ++ ['\n']))
        (number + content.length) rest := by
  induction content generalizing number text with
  | nil => simp
  | cons line content ih =>
      rw [List.cons_append, read_of_step_ok _ _ _ _ _
        (step_content number start statement heredoc later text line (unended line (by simp))),
        map_nothing_done, ih _ _ fun other member => unended other (by simp [member])]
      simp only [List.flatMap_cons, List.length_cons, List.append_assoc]
      congr 1
      omega

theorem read_endless (number start : Nat) (statement : Statement) (heredoc : Heredoc)
    (later : List Heredoc) (rest : List Text)
    (endless : ∀ line ∈ rest, heredoc.bodyLine line ≠ heredoc.word) :
    readSettled escape start statement (heredoc :: later) number rest =
      .error (.unterminatedHeredoc start heredoc.word) := by
  have allContent : read escape (.body start statement heredoc later []) number (rest ++ []) = _ :=
    read_content number start statement heredoc later [] rest [] endless
  rw [List.append_nil] at allContent
  rw [read_settled_open, allContent]
  rfl

theorem read_body (number start : Nat) (statement : Statement) (body : Body)
    (later : List Heredoc) (rest : List Text) :
    readSettled escape start statement (body.heredoc :: later) number (body.lines ++ rest) =
      readSettled escape start { statement with args := statement.args ++ [body.text] } later
        (number + body.lines.length) rest := by
  rw [read_settled_open, Body.lines, List.append_assoc, List.cons_append, List.nil_append,
    read_content _ _ _ _ _ _ _ _ body.unended, List.nil_append,
    read_of_step_ok _ _ _ _ _ (step_terminator _ _ _ _ _ _ _ body.ended)]
  simp only [readSettled, Body.text, List.length_append, List.length_cons, List.length_nil,
    Nat.add_assoc]

theorem read_bodies (number start : Nat) (statement : Statement) (bodies : List Body)
    (later : List Heredoc) (rest : List Text) :
    readSettled escape start statement (bodies.map Body.heredoc ++ later) number
        (bodies.flatMap Body.lines ++ rest) =
      readSettled escape start { statement with args := statement.args ++ bodies.map Body.text }
        later (number + (bodies.flatMap Body.lines).length) rest := by
  induction bodies generalizing number statement with
  | nil => simp
  | cons body bodies ih =>
      rw [List.map_cons, List.cons_append, List.flatMap_cons, List.append_assoc, read_body, ih]
      simp only [List.map_cons, List.length_append, List.append_assoc, List.cons_append,
        List.nil_append, Nat.add_assoc]

theorem read_block (number : Nat) (block : Block escape) (rest : List Text) :
    read escape .between number (block.lines ++ rest) =
      (read escape .between (number + block.lines.length) rest).map (block.statements ++ ·) := by
  -- The reader stands between statements again after a block, which is what lets blocks follow
  -- each other in the run below.
  cases block with
  | silent line silence =>
      exact read_of_step_ok _ _ _ _ _ (step_silent number line .between rfl silence)
  | statement logical head bodies reads opens =>
      simp only [Block.lines, Block.statements, List.append_assoc]
      rw [read_logical, reads]
      simp only [Except.bind]
      have allOpened : Heredoc.opened head = bodies.map Body.heredoc ++ [] := by simp [opens]
      rw [allOpened, read_bodies]
      simp only [readSettled, settle, List.length_append, Nat.add_assoc]

theorem read_ending (number : Nat) (ending : Ending escape) :
    read escape .between number ending.lines = ending.outcome number := by
  cases ending with
  | nothing => rfl
  | continued tail =>
      obtain ⟨continued, nonempty⟩ := tail
      obtain ⟨first, others, rfl⟩ := List.exists_cons_of_ne_nil nonempty
      simp only [Ending.lines, OpenLine.lines, Ending.outcome, OpenLine.text, List.flatMap_cons]
      rw [read_continued _ _ rfl]
      have allContinued :=
        read_all_continued (number + first.lines.length) number first.piece others []
      rw [List.append_nil] at allContinued
      simp only [Place.start, Place.text, List.nil_append, allContinued, read, finish,
        List.isEmpty_iff]
  | refused logical directive rest refuses =>
      simp only [Ending.lines, Ending.outcome]
      rw [read_logical, refuses]
      rfl
  | unended logical head bodies heredoc later rest reads opens endless =>
      simp only [Ending.lines, Ending.outcome, List.append_assoc]
      rw [read_logical, reads]
      simp only [Except.bind]
      rw [opens, read_bodies, read_endless _ _ _ _ _ _ endless]

theorem read_blocks (number : Nat) (blocks : List (Block escape)) (rest : List Text) :
    read escape .between number (blocks.flatMap Block.lines ++ rest) =
      (read escape .between (number + (blocks.flatMap Block.lines).length) rest).map
        (blocks.flatMap Block.statements ++ ·) := by
  induction blocks generalizing number with
  | nil => exact (map_nothing_done _).symm
  | cons block blocks ih =>
      rw [List.flatMap_cons, List.append_assoc, read_block, ih, map_done_twice]
      simp only [List.flatMap_cons, List.length_append, Nat.add_assoc]

theorem read_layout (number : Nat) (layout : Layout escape) :
    read escape .between number layout.lines = layout.outcomeFrom number := by
  unfold Layout.lines Layout.outcomeFrom
  rw [read_blocks, read_ending]

theorem parse_of_layout (text : Text)
    (layout : Layout (escapeOf (Text.lines (withoutMark text))))
    (covers : layout.lines = Text.lines (withoutMark text)) :
    parse text = layout.outcome := by
  have readAs := read_layout 1 layout
  rw [covers] at readAs
  simp only [parse, Layout.outcome, readAs]
  cases layout.outcomeFrom 1 with
  | error failure => rfl
  | ok statements => cases statements <;> rfl

end Document
end DockerfileAudit
