import DockerfileAudit.Proofs.LineEndings
import DockerfileAudit.Report

/-!
What the text of a report tells. Each line of it begins with what it is, a rule or an item, whatever
stands behind that; and an item belongs to the rule before it. So the lines can be read back into
findings, the text has all that the report has, and its lines can be counted instead.
-/
set_option autoImplicit false

namespace DockerfileAudit

namespace Text

/-- Lines that are written out with line feeds can be told apart, if they hold none of their own. -/
theorem unlines_injective (left right : List Text) (leftWhole : ∀ line ∈ left, '\n' ∉ line)
    (rightWhole : ∀ line ∈ right, '\n' ∉ line) (same : unlines left = unlines right) :
    left = right := by
  have cut : ∀ (line rest : Text), '\n' ∉ line →
      cutAt (· = '\n') (line ++ '\n' :: rest) = some (line, rest) := by
    intro line rest whole
    exact (cut_at_eq_some_iff _ _ line rest).mpr ⟨'\n', rfl, uncut_of_whole line whole, rfl⟩
  induction left generalizing right with
  | nil =>
      cases right with
      | nil => rfl
      | cons line others => simp [unlines] at same
  | cons line others ih =>
      cases right with
      | nil => simp [unlines] at same
      | cons other more =>
          rw [unlines_cons, unlines_cons] at same
          have parts := congrArg (cutAt (· = '\n')) same
          rw [cut _ _ (leftWhole line (by simp)), cut _ _ (rightWhole other (by simp)),
            Option.some.injEq, Prod.mk.injEq] at parts
          rw [parts.1, ih more (fun line member => leftWhole line (by simp [member]))
            (fun line member => rightWhole line (by simp [member])) parts.2]

theorem starts_with_ended_line (line mark : Text) (bare : '\r' ∉ mark) :
    startsWith (endedLine line.reverse) mark = startsWith line mark := by
  rcases ended_line_cases line with same | returned
  · rw [same]
  · rw [Bool.eq_iff_iff, starts_with_iff, starts_with_iff]
    constructor
    · rintro ⟨rest, begins⟩
      exact ⟨rest ++ ['\r'], by rw [returned, begins, List.append_assoc]⟩
    · rintro ⟨rest, begins⟩
      rw [begins] at returned ⊢
      rcases List.eq_nil_or_concat rest with rfl | ⟨front, last, rfl⟩
      · rw [List.append_nil] at returned
        exact absurd (by rw [returned]; simp) bare
      · rw [List.concat_eq_append, ← List.append_assoc] at returned ⊢
        have parts := List.append_inj' returned rfl
        exact ⟨front, parts.1.symm⟩

end Text

namespace Report

def OneLined (report : Report) : Prop :=
  ∀ finding ∈ report.findings, '\n' ∉ finding.rule ∧ ∀ item ∈ finding.items, '\n' ∉ item

instance (report : Report) : Decidable report.OneLined :=
  inferInstanceAs (Decidable (∀ finding ∈ report.findings,
    '\n' ∉ finding.rule ∧ ∀ item ∈ finding.items, '\n' ∉ item))

/-- The findings that lines tell, and the items before the first of them. Whether a rule is marked
as passed or failed, its name stands behind seven characters. -/
def gather : List Text → List Text × List Finding
  | [] => ([], [])
  | line :: rest =>
      match Text.after? "  - ".toList line with
      | some item => (item :: (gather rest).1, (gather rest).2)
      | none => ([], ⟨line.drop 7, (gather rest).1⟩ :: (gather rest).2)

theorem gather_items (items rest : List Text) :
    gather ((items.map fun item => "  - ".toList ++ item) ++ rest) =
      (items ++ (gather rest).1, (gather rest).2) := by
  induction items with
  | nil => rfl
  | cons item items ih =>
      have found : Text.after? "  - ".toList ("  - ".toList ++ item) = some item :=
        (Text.after_eq_some_iff _ _ _).mpr rfl
      rw [List.map_cons, List.cons_append, gather, found]
      dsimp only
      rw [ih]
      rfl

theorem gather_rule (line rule : Text) (rest : List Text)
    (marked : line = "[PASS] ".toList ++ rule ∨ line = "[FAIL] ".toList ++ rule) :
    gather (line :: rest) = ([], ⟨rule, (gather rest).1⟩ :: (gather rest).2) := by
  rcases marked with rfl | rfl <;> rfl

theorem gather_finding (finding : Finding) (rest : List Text) (ready : (gather rest).1 = []) :
    gather (textLines finding ++ rest) = ([], finding :: (gather rest).2) := by
  unfold textLines
  split
  · rename_i clean
    have noItems : finding.items = [] := List.isEmpty_iff.mp clean
    rw [List.singleton_append, gather_rule _ finding.rule rest (Or.inl rfl), ready, ← noItems]
  · rw [List.cons_append, gather_rule _ finding.rule _ (Or.inr rfl), gather_items, ready,
      List.append_nil]

theorem gather_findings (findings : List Finding) :
    gather (findings.flatMap textLines) = ([], findings) := by
  induction findings with
  | nil => rfl
  | cons finding findings ih =>
      rw [List.flatMap_cons, gather_finding finding _ (by rw [ih]), ih]

theorem whole_of_mem_text_lines (finding : Finding) (ruleWhole : '\n' ∉ finding.rule)
    (itemsWhole : ∀ item ∈ finding.items, '\n' ∉ item) (line : Text)
    (member : line ∈ textLines finding) : '\n' ∉ line := by
  have marks : ∀ mark ∈ ["[PASS] ".toList, "[FAIL] ".toList, "  - ".toList], '\n' ∉ mark := by
    decide
  unfold textLines at member
  split at member
  · rw [List.mem_singleton.mp member, List.mem_append, not_or]
    exact ⟨marks _ (by simp), ruleWhole⟩
  · rcases List.mem_cons.mp member with rfl | inside
    · rw [List.mem_append, not_or]
      exact ⟨marks _ (by simp), ruleWhole⟩
    · obtain ⟨item, there, rfl⟩ := List.mem_map.mp inside
      rw [List.mem_append, not_or]
      exact ⟨marks _ (by simp), itemsWhole item there⟩

theorem OneLined.lines_whole {report : Report} (oneLined : report.OneLined) (line : Text)
    (member : line ∈ report.findings.flatMap textLines) : '\n' ∉ line := by
  obtain ⟨finding, there, inside⟩ := List.mem_flatMap.mp member
  obtain ⟨ruleWhole, itemsWhole⟩ := oneLined finding there
  exact whole_of_mem_text_lines finding ruleWhole itemsWhole line inside

theorem feed_not_mem_of_nat (n : Nat) : '\n' ∉ Text.ofNat n := by
  intro feed
  have digit := Nat.isDigit_of_mem_toDigits (by decide) (by decide) feed
  exact absurd digit (by decide)

theorem head_lines_whole (report : Report) (version : Text) (versionWhole : '\n' ∉ version)
    (line : Text) (member : line ∈ headLines report version) : '\n' ∉ line := by
  have marks : ∀ mark ∈ [toolName, [' '], "Rules evaluated: ".toList, ", violations: ".toList],
      '\n' ∉ mark := by decide
  simp only [headLines, List.mem_cons, List.not_mem_nil, or_false] at member
  rcases member with rfl | rfl
  · simp only [List.mem_append, not_or]
    exact ⟨⟨marks _ (by simp), marks _ (by simp)⟩, versionWhole⟩
  · simp only [List.mem_append, not_or]
    exact ⟨⟨⟨marks _ (by simp), feed_not_mem_of_nat _⟩, marks _ (by simp)⟩, feed_not_mem_of_nat _⟩

def allLines (report : Report) (version : Text) : List Text :=
  headLines report version ++ report.findings.flatMap textLines

theorem to_text_eq_unlines (report : Report) (version : Text) :
    report.toText version = Text.unlines (report.allLines version) := rfl

theorem OneLined.all_lines_whole {report : Report} (oneLined : report.OneLined) {version : Text}
    (versionWhole : '\n' ∉ version) (line : Text) (member : line ∈ report.allLines version) :
    '\n' ∉ line := by
  rcases List.mem_append.mp member with head | behind
  · exact head_lines_whole report version versionWhole line head
  · exact oneLined.lines_whole line behind

theorem findings_eq_gather (report : Report) (version : Text) :
    report.findings = (gather ((report.allLines version).drop 2)).2 := by
  have behind : (report.allLines version).drop 2 = report.findings.flatMap textLines := rfl
  rw [behind, gather_findings]

theorem to_text_injective {left right : Report} {version : Text} (versionWhole : '\n' ∉ version)
    (leftOneLined : left.OneLined) (rightOneLined : right.OneLined)
    (same : left.toText version = right.toText version) : left = right := by
  rw [to_text_eq_unlines, to_text_eq_unlines] at same
  have lines := Text.unlines_injective _ _ (leftOneLined.all_lines_whole versionWhole)
    (rightOneLined.all_lines_whole versionWhole) same
  have findings : left.findings = right.findings := by
    rw [left.findings_eq_gather version, lines, ← right.findings_eq_gather version]
  cases left
  cases right
  exact congrArg Report.mk findings

section Counting

def isItem (line : Text) : Bool := Text.startsWith line "  - ".toList

def isFailed (line : Text) : Bool := Text.startsWith line "[FAIL] ".toList

def isRule (line : Text) : Bool := Text.startsWith line "[PASS] ".toList || isFailed line

theorem starts_with_self (mark rest : Text) : Text.startsWith (mark ++ rest) mark = true :=
  (Text.starts_with_iff _ _).mpr ⟨rest, rfl⟩

theorem count_p_is_item (finding : Finding) :
    (textLines finding).countP isItem = finding.items.length := by
  unfold textLines
  split
  · rename_i clean
    rw [List.isEmpty_iff.mp clean]
    rfl
  · have rule : isItem ("[FAIL] ".toList ++ finding.rule) = false := rfl
    have items : ((finding.items.map fun item => "  - ".toList ++ item).countP isItem) =
        (finding.items.map fun item => "  - ".toList ++ item).length := by
      rw [List.countP_eq_length]
      intro line member
      obtain ⟨item, _, rfl⟩ := List.mem_map.mp member
      exact starts_with_self _ item
    rw [List.countP_cons_of_neg (Bool.eq_false_iff.mp rule), items, List.length_map]

theorem count_p_is_rule (finding : Finding) : (textLines finding).countP isRule = 1 := by
  unfold textLines
  split
  · rfl
  · have rule : isRule ("[FAIL] ".toList ++ finding.rule) = true := rfl
    have items : ((finding.items.map fun item => "  - ".toList ++ item).countP isRule) = 0 := by
      rw [List.countP_eq_zero]
      intro line member
      obtain ⟨item, _, rfl⟩ := List.mem_map.mp member
      exact Bool.false_ne_true
    rw [List.countP_cons_of_pos rule, items]

theorem any_is_failed (finding : Finding) :
    (textLines finding).any isFailed = !finding.isClean := by
  unfold textLines
  split
  · rename_i clean
    rw [clean]
    rfl
  · rename_i unclean
    rw [List.any_cons, isFailed, starts_with_self, Bool.eq_false_iff.mpr unclean]
    rfl

theorem count_p_is_item_findings (report : Report) :
    (report.findings.flatMap textLines).countP isItem = report.violationCount := by
  unfold violationCount
  induction report.findings with
  | nil => rfl
  | cons finding findings ih =>
      rw [List.flatMap_cons, List.countP_append, count_p_is_item, ih, List.foldr_cons]

theorem count_p_is_rule_findings (findings : List Finding) :
    (findings.flatMap textLines).countP isRule = findings.length := by
  induction findings with
  | nil => rfl
  | cons finding findings ih =>
      rw [List.flatMap_cons, List.countP_append, count_p_is_rule, ih, List.length_cons,
        Nat.add_comm]

theorem any_is_failed_findings (report : Report) :
    (report.findings.flatMap textLines).any isFailed = report.hasViolations := by
  unfold hasViolations
  induction report.findings with
  | nil => rfl
  | cons finding findings ih =>
      rw [List.flatMap_cons, List.any_append, any_is_failed, ih, List.any_cons]

theorem lines_to_text {report : Report} {version : Text} (versionWhole : '\n' ∉ version)
    (oneLined : report.OneLined) :
    Text.lines (report.toText version) =
      (report.allLines version).map fun line => Text.endedLine line.reverse := by
  have read := Text.lines_unlines _ [] (oneLined.all_lines_whole versionWhole)
  rw [List.append_nil] at read
  rw [to_text_eq_unlines, read]
  exact List.append_nil _

theorem is_item_ended_line (line : Text) : isItem (Text.endedLine line.reverse) = isItem line :=
  Text.starts_with_ended_line line _ (by decide)

theorem is_failed_ended_line (line : Text) :
    isFailed (Text.endedLine line.reverse) = isFailed line :=
  Text.starts_with_ended_line line _ (by decide)

theorem is_rule_ended_line (line : Text) : isRule (Text.endedLine line.reverse) = isRule line := by
  unfold isRule
  rw [is_failed_ended_line, Text.starts_with_ended_line line _ (by decide)]

theorem count_p_ended_line (kind : Text → Bool) (written : List Text)
    (ignores : ∀ line : Text, kind (Text.endedLine line.reverse) = kind line) :
    (written.map fun line => Text.endedLine line.reverse).countP kind = written.countP kind := by
  rw [List.countP_map]
  apply List.countP_congr
  intro line _
  rw [Function.comp_apply, ignores]

theorem exists_is_failed (report : Report) (version : Text) :
    (∃ line ∈ (report.allLines version).map fun line => Text.endedLine line.reverse,
        isFailed line = true) ↔ report.hasViolations = true := by
  rw [← List.countP_pos_iff, count_p_ended_line isFailed _ is_failed_ended_line,
    ← any_is_failed_findings, List.any_eq_true, ← List.countP_pos_iff]
  rfl

end Counting

/-- The text of a report tells the report. Two reports with the same text are the same; and behind
the two lines at the top there is a line for each item, among all lines one that passes or fails for
each finding, and one that fails exactly if the report has violations. Versions, rules and items may
be any texts without a line feed, also such as look like other lines. -/
theorem to_text_tells_report (version : Text) (versionWhole : '\n' ∉ version) :
    (∀ left right : Report, left.OneLined → right.OneLined →
      left.toText version = right.toText version → left = right) ∧
      ∀ report : Report, report.OneLined →
        ((Text.lines (report.toText version)).drop 2).countP
            (fun line => Text.startsWith line "  - ".toList) = report.violationCount ∧
          (Text.lines (report.toText version)).countP (fun line =>
              Text.startsWith line "[PASS] ".toList || Text.startsWith line "[FAIL] ".toList) =
            report.findings.length ∧
          ((∃ line ∈ Text.lines (report.toText version),
              Text.startsWith line "[FAIL] ".toList = true) ↔ report.hasViolations = true) := by
  refine ⟨?_, ?_⟩
  · intro left right leftOneLined rightOneLined same
    exact to_text_injective versionWhole leftOneLined rightOneLined same
  · intro report oneLined
    rw [lines_to_text versionWhole oneLined]
    refine ⟨?_, ?_, ?_⟩
    · rw [← List.map_drop]
      exact (count_p_ended_line isItem _ is_item_ended_line).trans (count_p_is_item_findings report)
    · exact (count_p_ended_line isRule _ is_rule_ended_line).trans
        (count_p_is_rule_findings report.findings)
    · exact exists_is_failed report version

/-- Its texts look like other lines, one item is empty and one ends in a carriage return. -/
def lookalikes : Report :=
  ⟨[⟨"  - x".toList, []⟩, ⟨"[PASS] ".toList, [[], "[FAIL] y\r".toList]⟩]⟩

theorem to_text_tells_report_of_lookalikes :
    lookalikes.toText "  - 1".toList ≠
        toText ⟨[⟨"  - x".toList, []⟩, ⟨"[PASS] ".toList, [[], "[FAIL] y".toList]⟩]⟩
          "  - 1".toList ∧
      ((Text.lines (lookalikes.toText "  - 1".toList)).drop 2).countP
        (fun line => Text.startsWith line "  - ".toList) = 2 := by
  have general := to_text_tells_report "  - 1".toList (by decide)
  refine ⟨?_, (general.2 lookalikes (by decide)).1⟩
  intro same
  have equal := general.1 _ _ (by decide) (by decide) same
  exact absurd equal (by decide)

end Report
end DockerfileAudit
