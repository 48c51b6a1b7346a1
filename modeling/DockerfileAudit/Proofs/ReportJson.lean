import DockerfileAudit.Proofs.Json
import DockerfileAudit.Report

/-!
Reports that were written as JSON are read back. What is written for a value can be read wherever it
stands, with fuel for each of its characters; blocks of such texts, with commas and line breaks
between them, are texts of the same kind. So arrays and objects may nest, and a report is two levels
of both.
-/
set_option autoImplicit false

namespace DockerfileAudit
namespace Json

theorem Reads.mono {need more : Nat} {written : Text} {value : Json}
    (reads : Reads need written value)
    (enough : need ≤ more) : Reads more written value := by
  intro fuel rest available
  exact reads fuel rest (by omega)

/-- What is written for a value: it starts with a character that is no space and closes nothing, and
fuel for its own length is enough to read it. -/
structure Writes (written : Text) (value : Json) : Prop where
  starts : ∃ c rest, written = c :: rest ∧ isSpace c = false ∧ c ≠ ']'
  reads : Reads written.length written value

theorem writes_string (text : Text) : Writes (writeString text) (.string (some text)) where
  starts := ⟨'"', text.flatMap writeChar ++ ['"'], rfl, rfl, by decide⟩
  reads := (reads_string text).mono (by simp [writeString])

theorem space_newline (level : Nat) : ∀ c ∈ newline level, isSpace c = true := by
  intro c member
  rcases List.mem_cons.mp member with rfl | blank
  · rfl
  · rw [(List.mem_replicate.mp blank).2]
    rfl

theorem skip_space_unspaced (space rest : Text) (c : Char) (blank : ∀ d ∈ space, isSpace d = true)
    (unspaced : isSpace c = false) : skipSpace (space ++ c :: rest) = c :: rest := by
  rw [skip_space_append space _ blank]
  simp [skipSpace, unspaced]

/-- There is a comma behind each part but the last, so fuel for the longest part and one more for
each other part is no more than the length of the whole. -/
theorem exists_need (gap first : Text) (others : List Text) :
    ∃ need, (∀ part ∈ first :: others, part.length ≤ need) ∧
      need + others.length ≤ (Text.join (',' :: gap) (first :: others)).length := by
  induction others generalizing first with
  | nil => exact ⟨first.length, by simp, by simp [Text.join]⟩
  | cons second others ih =>
      obtain ⟨need, longest, room⟩ := ih second
      refine ⟨max first.length need, ?_, ?_⟩
      · intro part member
        rcases List.mem_cons.mp member with rfl | behind
        · exact le_max_left _ _
        · exact (longest part behind).trans (le_max_right _ _)
      · simp only [Text.join, List.length_append, List.length_cons] at room ⊢
        omega

theorem join_starts (between first : Text) (others : List Text) (c : Char) (rest : Text)
    (starts : first = c :: rest) :
    ∃ rest, Text.join between (first :: others) = c :: rest := by
  subst starts
  cases others with
  | nil => exact ⟨rest, rfl⟩
  | cons second others => exact ⟨_, rfl⟩

theorem length_write_block (opening closing : Char) (level : Nat) (parts : List Text)
    (nonempty : parts ≠ []) :
    (Text.join (',' :: newline (level + 1)) parts).length + 4 ≤
      (writeBlock opening closing level parts).length := by
  rw [writeBlock, if_neg (by simpa using nonempty)]
  simp only [List.length_append, List.length_cons, List.length_nil, newline]
  omega

theorem write_block_append (opening closing : Char) (level : Nat) (parts : List Text) (rest : Text)
    (nonempty : parts ≠ []) :
    writeBlock opening closing level parts ++ rest =
      opening :: (newline (level + 1) ++ (Text.join (',' :: newline (level + 1)) parts ++
        (newline level ++ closing :: rest))) := by
  rw [writeBlock, if_neg (by simpa using nonempty)]
  simp

theorem read_value_bracket (fuel : Nat) (text : Text) :
    readValue (fuel + 1) ('[' :: text) =
      match skipSpace text with
      | ']' :: after => some (.array [], after)
      | text => (readItems fuel text).map fun read => (.array read.1, read.2) := rfl

theorem read_value_brace (fuel : Nat) (text : Text) :
    readValue (fuel + 1) ('{' :: text) =
      match skipSpace text with
      | '}' :: after => some (.object [], after)
      | text => (readMembers fuel text).map fun read => (.object read.1, read.2) := rfl

theorem read_value_items (fuel : Nat) (space rest : Text) (c : Char)
    (blank : ∀ d ∈ space, isSpace d = true) (unspaced : isSpace c = false) (opens : c ≠ ']') :
    readValue (fuel + 1) ('[' :: (space ++ c :: rest)) =
      (readItems fuel (c :: rest)).map fun read => (.array read.1, read.2) := by
  rw [read_value_bracket, skip_space_unspaced space rest c blank unspaced]
  split
  · rename_i after equal
    exact absurd (List.cons.inj equal).1 opens
  · rfl

theorem read_value_members (fuel : Nat) (space rest : Text)
    (blank : ∀ d ∈ space, isSpace d = true) :
    readValue (fuel + 1) ('{' :: (space ++ '"' :: rest)) =
      (readMembers fuel ('"' :: rest)).map fun read => (.object read.1, read.2) := by
  rw [read_value_brace, skip_space_unspaced space rest '"' blank rfl]
  rfl

theorem writes_array (level : Nat) (parts : List (Text × Json))
    (each : ∀ part ∈ parts, Writes part.1 part.2) :
    Writes (writeArray level (parts.map Prod.fst)) (.array (parts.map Prod.snd)) := by
  unfold writeArray
  cases parts with
  | nil =>
      refine ⟨⟨'[', [']'], rfl, rfl, by decide⟩, ?_⟩
      intro fuel rest enough
      obtain ⟨less, rfl⟩ : ∃ less, fuel = less + 1 :=
        ⟨fuel - 1, by simp [writeBlock] at enough; omega⟩
      rfl
  | cons first others =>
      have shape := fun rest =>
        write_block_append '[' ']' level ((first :: others).map Prod.fst) rest
        (by simp)
      have long := length_write_block '[' ']' level ((first :: others).map Prod.fst) (by simp)
      refine ⟨⟨'[', _, by simpa using shape [], rfl, by decide⟩, ?_⟩
      intro fuel rest enough
      obtain ⟨less, rfl⟩ : ∃ less, fuel = less + 1 := ⟨fuel - 1, by omega⟩
      obtain ⟨need, longest, room⟩ :=
        exists_need (newline (level + 1)) first.1 (others.map Prod.fst)
      have allRead : ∀ part ∈ first :: others, Reads need part.1 part.2 := by
        intro part member
        exact (each part member).reads.mono (longest part.1 (List.mem_map_of_mem member))
      have items := read_items_join need (newline (level + 1)) (newline level) rest first others
        (space_newline _) (space_newline _) allRead less
        (by simp only [List.map_cons, List.length_map] at enough long room; omega)
      -- The first part begins with no space and no bracket, so the reader goes for the items.
      obtain ⟨c, tail, begins, unspaced, opens⟩ := (each first (by simp)).starts
      obtain ⟨more, joined⟩ := join_starts (',' :: newline (level + 1)) first.1
        (others.map Prod.fst) c tail begins
      rw [List.map_cons, joined, List.cons_append] at items
      rw [shape, List.map_cons, joined, List.cons_append,
        read_value_items less _ _ c (space_newline _) unspaced opens, items]
      rfl

theorem write_member_append (name written rest : Text) :
    writeMember name written ++ rest =
      '"' :: (name.flatMap writeChar ++ '"' :: (':' :: ([' '] ++ (written ++ rest)))) := by
  simp [writeMember, writeString]

theorem skip_space_cons (c : Char) (rest : Text) (unspaced : isSpace c = false) :
    skipSpace (c :: rest) = c :: rest :=
  skip_space_unspaced [] rest c (List.forall_mem_nil _) unspaced

theorem read_value_behind_colon (fuel : Nat) (written rest : Text) (value : Json)
    (reads : Reads fuel written value) :
    readValue fuel ([' '] ++ (written ++ rest)) = some (value, rest) := by
  rw [read_value_skip fuel [' '] _ (List.forall_mem_singleton.mpr rfl),
    reads fuel rest (Nat.le_refl _)]

theorem read_members_close (fuel : Nat) (name written rest after : Text) (value : Json)
    (reads : Reads fuel written value) (closed : skipSpace rest = '}' :: after) :
    readMembers (fuel + 1) (writeMember name written ++ rest) =
      some ([(some name, value)], after) := by
  rw [write_member_append, readMembers, skip_space_cons '"' _ rfl]
  simp only [read_string_written, skip_space_cons ':' _ rfl,
    read_value_behind_colon fuel written rest value reads, closed]

theorem read_members_comma (fuel : Nat) (name written rest more : Text) (value : Json)
    (reads : Reads fuel written value) (goesOn : skipSpace rest = ',' :: more) :
    readMembers (fuel + 1) (writeMember name written ++ rest) =
      (readMembers fuel more).map fun read => ((some name, value) :: read.1, read.2) := by
  rw [write_member_append, readMembers, skip_space_cons '"' _ rfl]
  simp only [read_string_written, skip_space_cons ':' _ rfl,
    read_value_behind_colon fuel written rest value reads, goesOn]

theorem read_members_skip (fuel : Nat) (space text : Text) (blank : ∀ c ∈ space, isSpace c = true) :
    readMembers fuel (space ++ text) = readMembers fuel text := by
  cases fuel with
  | zero => rfl
  | succ fuel => rw [readMembers, readMembers, skip_space_append space text blank]

structure Member where
  name : Text
  written : Text
  value : Json

namespace Member

def text (member : Member) : Text := writeMember member.name member.written

def entry (member : Member) : Option Text × Json := (some member.name, member.value)

end Member

/-- Written members with commas between them, and space behind each comma and before the brace, are
read as the members of an object. -/
theorem read_members_join (need : Nat) (gap space rest : Text) (first : Member)
    (others : List Member)
    (gapBlank : ∀ c ∈ gap, isSpace c = true) (spaceBlank : ∀ c ∈ space, isSpace c = true)
    (reads : ∀ member ∈ first :: others, Reads need member.written member.value) (fuel : Nat)
    (enough : need + others.length + 1 ≤ fuel) :
    readMembers fuel (Text.join (',' :: gap) ((first :: others).map Member.text) ++
        (space ++ '}' :: rest)) = some ((first :: others).map Member.entry, rest) := by
  obtain ⟨less, rfl⟩ : ∃ less, fuel = less + 1 := ⟨fuel - 1, by omega⟩
  -- On the members behind the first; each takes one from the fuel.
  induction others generalizing first less with
  | nil =>
      have readsFirst :=
        Reads.mono (reads first (by simp)) (show need ≤ less by simp at enough; omega)
      exact read_members_close less first.name first.written (space ++ '}' :: rest) rest first.value
        readsFirst (skip_space_unspaced space rest '}' spaceBlank rfl)
  | cons second others ih =>
      rw [List.length_cons] at enough
      obtain ⟨fewer, rfl⟩ : ∃ fewer, less = fewer + 1 := ⟨less - 1, by omega⟩
      have later := ih second (fun member among => reads member (List.mem_cons_of_mem first among))
        fewer (by omega)
      have readsFirst := Reads.mono (reads first (by simp)) (show need ≤ fewer + 1 by omega)
      have whole : Text.join (',' :: gap) ((first :: second :: others).map Member.text) ++
          (space ++ '}' :: rest) =
            writeMember first.name first.written ++ (',' :: (gap ++
              (Text.join (',' :: gap) ((second :: others).map Member.text) ++
                (space ++ '}' :: rest)))) := by
        simp [Text.join, Member.text]
      rw [whole, read_members_comma _ _ _ _ _ _ readsFirst rfl, read_members_skip _ gap _ gapBlank,
        later]
      rfl

theorem writes_object (level : Nat) (members : List Member)
    (each : ∀ member ∈ members, Writes member.written member.value) :
    Writes (writeObject level (members.map fun member => (member.name, member.written)))
      (.object (members.map Member.entry)) := by
  have parts : writeObject level (members.map fun member => (member.name, member.written)) =
      writeBlock '{' '}' level (members.map Member.text) := by
    rw [writeObject, List.map_map]
    rfl
  rw [parts]
  cases members with
  | nil =>
      refine ⟨⟨'{', ['}'], rfl, rfl, by decide⟩, ?_⟩
      intro fuel rest enough
      obtain ⟨less, rfl⟩ : ∃ less, fuel = less + 1 :=
        ⟨fuel - 1, by simp [writeBlock] at enough; omega⟩
      rfl
  | cons first others =>
      have shape := fun rest => write_block_append '{' '}' level ((first :: others).map Member.text)
        rest (by simp)
      have long := length_write_block '{' '}' level ((first :: others).map Member.text) (by simp)
      refine ⟨⟨'{', _, by simpa using shape [], rfl, by decide⟩, ?_⟩
      intro fuel rest enough
      obtain ⟨less, rfl⟩ : ∃ less, fuel = less + 1 := ⟨fuel - 1, by omega⟩
      obtain ⟨need, longest, room⟩ :=
        exists_need (newline (level + 1)) first.text (others.map Member.text)
      have allRead : ∀ member ∈ first :: others, Reads need member.written member.value := by
        intro member among
        refine (each member among).reads.mono (le_trans ?_ (longest member.text
          (List.mem_map_of_mem among)))
        simp only [Member.text, writeMember, List.length_append]
        omega
      have read := read_members_join need (newline (level + 1)) (newline level) rest first others
        (space_newline _) (space_newline _) allRead less
        (by simp only [List.map_cons, List.length_map] at enough long room; omega)
      obtain ⟨more, joined⟩ := join_starts (',' :: newline (level + 1)) first.text
        (others.map Member.text) '"' _ rfl
      rw [List.map_cons, joined, List.cons_append] at read
      rw [shape, List.map_cons, joined, List.cons_append,
        read_value_members less _ _ (space_newline _),
        read]
      rfl

/-- A written value is the value of the text, also with space behind it. -/
theorem parse_of_writes (written space : Text) (value : Json) (writes : Writes written value)
    (blank : ∀ c ∈ space, isSpace c = true) : parse (written ++ space) = some value := by
  have read := writes.reads (2 * (written ++ space).length + 2) space (by simp; omega)
  have nothing : skipSpace space = [] := by
    have skipped := skip_space_append space [] blank
    rwa [List.append_nil] at skipped
  simp only [parse, read, nothing]
  rfl

end Json

namespace Report

def findingValue (finding : Finding) : Json :=
  .object [(some ruleName, .string (some finding.rule)),
    (some itemsName, Json.ofTexts finding.items)]

def value (report : Report) : Json :=
  .object [(some reportName, .array (report.findings.map findingValue))]

theorem writes_items (items : List Text) :
    Json.Writes (Json.writeArray 3 (items.map Json.writeString)) (Json.ofTexts items) := by
  have written := Json.writes_array 3
    (items.map fun item => (Json.writeString item, Json.string (some item)))
    (by
      intro part member
      obtain ⟨item, _, rfl⟩ := List.mem_map.mp member
      exact Json.writes_string item)
  simpa [Json.ofTexts, Function.comp_def] using written

theorem writes_finding (finding : Finding) :
    Json.Writes (findingJson finding) (findingValue finding) :=
  Json.writes_object 2
    [⟨ruleName, Json.writeString finding.rule, .string (some finding.rule)⟩,
      ⟨itemsName, Json.writeArray 3 (finding.items.map Json.writeString),
        Json.ofTexts finding.items⟩]
    (by simpa using ⟨Json.writes_string finding.rule, writes_items finding.items⟩)

theorem writes_report (report : Report) : Json.Writes report.toJson report.value := by
  have findings := Json.writes_array 1
    (report.findings.map fun finding => (findingJson finding, findingValue finding))
    (by
      intro part member
      obtain ⟨finding, _, rfl⟩ := List.mem_map.mp member
      exact writes_finding finding)
  simp only [List.map_map, Function.comp_def] at findings
  exact Json.writes_object 0
    [⟨reportName, Json.writeArray 1 (report.findings.map findingJson),
      .array (report.findings.map findingValue)⟩] (by simpa using findings)

theorem finding_of_json_value (finding : Finding) :
    findingOfJson? (findingValue finding) = some finding := by
  have fields : (findingValue finding).record? [ruleName, itemsName] =
      some [.string (some finding.rule), Json.ofTexts finding.items] := rfl
  unfold findingOfJson?
  rw [fields]
  dsimp only
  rw [Json.list_of_texts]
  rfl

theorem of_json_value (report : Report) : ofJson? report.value = some report := by
  have fields : report.value.record? [reportName] =
      some [.array (report.findings.map findingValue)] := rfl
  have each : (report.findings.map findingValue).mapM findingOfJson? = some report.findings := by
    induction report.findings with
    | nil => rfl
    | cons finding others ih =>
        rw [List.map_cons, List.mapM_cons, finding_of_json_value, ih]
        rfl
  unfold ofJson?
  rw [fields]
  dsimp only [Json.list?]
  rw [each]
  rfl

theorem parse_to_json_append (report : Report) (space : Text)
    (blank : ∀ c ∈ space, Json.isSpace c = true) :
    parse? (report.toJson ++ space) = some report := by
  rw [parse?, Json.parse_of_writes _ space _ (writes_report report) blank]
  exact of_json_value report

/-- A report that was written as JSON is read back as it was, whatever its texts hold. -/
theorem parse_to_json (report : Report) : parse? report.toJson = some report := by
  have read := parse_to_json_append report [] (by simp)
  rwa [List.append_nil] at read

end Report
end DockerfileAudit
