import DockerfileAudit.Proofs.PathOrder
import DockerfileAudit.Proofs.WrittenFiles

/-!
What a search finds. The regular files of a tree are those that a walk visits, each once, and a file
is selected by what it is and not by when it is visited. So every walk through the same tree selects
the same paths, in the one order that paths have, and what cannot be read is missing from them by
itself.
-/
set_option autoImplicit false

namespace DockerfileAudit

mutual

/-- A tree whose directories have entries of different names, all of them such as entries can have.
-/
def FileTree.Proper : FileTree → Prop
  | .file _ _ => True
  | .link _ => True
  | .directory content => content.Proper

def Directory.Proper : Directory → Prop
  | .empty => True
  | .entry name tree rest =>
      Path.IsEntry name ∧ rest.find? name = none ∧ tree.Proper ∧ rest.Proper

end

theorem Directory.Proper.of_find {content : Directory} {name : Text} {tree : FileTree}
    (proper : content.Proper) (found : content.find? name = some tree) :
    Path.IsEntry name ∧ tree.Proper := by
  fun_induction Directory.find? name content with
  | case1 => cases found
  | case2 own rest =>
      obtain ⟨entry, -, treeProper, -⟩ := proper
      cases found
      exact ⟨entry, treeProper⟩
  | case3 other own rest different ih =>
      obtain ⟨-, -, -, restProper⟩ := proper
      exact ih restProper found

theorem FileTree.Proper.of_at {root tree : FileTree} {place : List Text} (proper : root.Proper)
    (found : root.at? place = some tree) : (∀ name ∈ place, Path.IsEntry name) ∧ tree.Proper := by
  induction place generalizing root with
  | nil =>
      cases found
      exact ⟨by simp, proper⟩
  | cons name rest ih =>
      cases root with
      | file bytes mode => cases found
      | link target => cases found
      | directory content =>
          rw [FileTree.at?] at found
          obtain ⟨sub, present, below⟩ := Option.bind_eq_some_iff.mp found
          obtain ⟨entry, subProper⟩ := Directory.Proper.of_find proper present
          obtain ⟨entries, treeProper⟩ := ih subProper below
          exact ⟨List.forall_mem_cons.mpr ⟨entry, entries⟩, treeProper⟩

namespace FileTree

variable {place : List Text} {bytes : List Nat} {mode : Nat}

theorem at_file_iff {tree : FileTree} :
    (file bytes mode).at? place = some tree ↔ place = [] ∧ tree = .file bytes mode := by
  cases place with
  | nil => simp [at?, eq_comm]
  | cons name rest => simp [at?]

theorem not_at_link {target : Text} :
    (link target).at? place ≠ some (.file bytes mode) := by
  cases place with
  | nil => simp [at?]
  | cons name rest => simp [at?]

theorem at_directory_iff {content : Directory} :
    (directory content).at? place = some (.file bytes mode) ↔
      ∃ name rest tree, place = name :: rest ∧ content.find? name = some tree ∧
        tree.at? rest = some (.file bytes mode) := by
  cases place with
  | nil => simp [at?]
  | cons name rest => simp [at?, Option.bind_eq_some_iff]

end FileTree

namespace Path

theorem Ends.at_of_found {root : FileTree} {follow : Bool} {place names spot : List Text}
    {tree : FileTree} (ends : Ends root follow place names (.found spot tree)) :
    root.at? spot = some tree := by
  generalize foundIs : Lookup.found spot tree = result at ends
  induction ends with
  | here place own found =>
      cases foundIs
      exact found
  | stay place rest result after ih => exact ih foundIs
  | up place rest result after ih => exact ih foundIs
  | missing place name named absent => cases foundIs
  | file place name bytes mode named found =>
      cases foundIs
      exact found
  | lastLink place name target named found kept =>
      cases foundIs
      exact found
  | link place rest name target named found followed => cases foundIs
  | enter place rest name result named directory after ih => exact ih foundIs

theorem at_of_chase {root : FileTree} {follow : Bool} {links : Nat} {place names spot : List Text}
    {directory wanted : Bool} {tree : FileTree}
    (reached : chase root follow links place names directory = .ok (.found spot tree, wanted)) :
    root.at? spot = some tree := by
  induction links using Nat.strongRecOn generalizing place names directory with
  | ind links ih =>
      rcases chase_cases reached with ⟨ends, -⟩ | ⟨holder, target, rest, fewer, ends, rfl, later⟩
      · exact ends.at_of_found
      · exact ih fewer (Nat.lt_succ_self fewer) later

theorem at_of_resolve {system : FileSystem} {follow : Bool} {path : Text} {tree : FileTree}
    (resolved : resolve system follow path = .ok tree) :
    ∃ place, system.root.at? place = some tree := by
  unfold resolve at resolved
  cases looked : lookup system follow path with
  | error failure =>
      rw [looked] at resolved
      cases resolved
  | ok outcome =>
      obtain ⟨result, wanted⟩ := outcome
      rw [looked] at resolved
      cases result with
      | missing place name => cases resolved
      | link place target rest => cases resolved
      | found place found =>
          have same : found = tree := by
            cases found with
            | directory content =>
                cases resolved
                rfl
            | file bytes mode =>
                cases wanted with
                | true => cases resolved
                | false =>
                    cases resolved
                    rfl
            | link target =>
                cases wanted with
                | true => cases resolved
                | false =>
                    cases resolved
                    rfl
          unfold lookup at looked
          split at looked
          · cases looked
          · split at looked
            · cases looked
            · exact ⟨place, same ▸ at_of_chase looked⟩

end Path

namespace Discover

section Walks

mutual

theorem mem_visits_at (place : List Text) :
    (tree : FileTree) → tree.Proper → ∀ (there : List Text) (mode : Except Text Nat),
      Visit.file there mode ∈ visitsAt place tree ↔
        ∃ below bytes bits, tree.at? below = some (.file bytes bits) ∧
          there = place ++ below ∧ mode = .ok bits
  | .file bytes bits, _, there, mode => by
      simp only [visitsAt, List.mem_singleton, Visit.file.injEq, FileTree.at_file_iff,
        FileTree.file.injEq]
      constructor
      · rintro ⟨rfl, rfl⟩
        exact ⟨[], bytes, bits, ⟨rfl, rfl, rfl⟩, by simp, rfl⟩
      · rintro ⟨_, _, _, ⟨rfl, rfl, rfl⟩, rfl, rfl⟩
        simp
  | .link target, _, there, mode => by
      simp [visitsAt, FileTree.not_at_link]
  | .directory content, proper, there, mode => by
      have inside := mem_visits_in place content proper there mode
      simp only [visitsAt, List.mem_cons, reduceCtorEq, false_or, inside,
        FileTree.at_directory_iff]
      constructor
      · rintro ⟨name, tree, below, bytes, bits, found, file, rfl, rfl⟩
        exact ⟨name :: below, bytes, bits, ⟨name, below, tree, rfl, found, file⟩, rfl, rfl⟩
      · rintro ⟨_, bytes, bits, ⟨name, below, tree, rfl, found, file⟩, rfl, rfl⟩
        exact ⟨name, tree, below, bytes, bits, found, file, rfl, rfl⟩

theorem mem_visits_in (place : List Text) :
    (content : Directory) → content.Proper → ∀ (there : List Text) (mode : Except Text Nat),
      Visit.file there mode ∈ visitsIn place content ↔
        ∃ name tree below bytes bits, content.find? name = some tree ∧
          tree.at? below = some (.file bytes bits) ∧ there = place ++ name :: below ∧
          mode = .ok bits
  | .empty, _, there, mode => by
      simp [visitsIn, Directory.find?]
  | .entry name tree rest, proper, there, mode => by
      obtain ⟨-, new, treeProper, restProper⟩ := proper
      have first := mem_visits_at (place ++ [name]) tree treeProper there mode
      have others := mem_visits_in place rest restProper there mode
      rw [visitsIn, List.mem_append, first, others]
      constructor
      · rintro (⟨below, bytes, bits, file, rfl, rfl⟩ |
          ⟨other, sub, below, bytes, bits, found, file, rfl, rfl⟩)
        · exact ⟨name, tree, below, bytes, bits, if_pos rfl, file, by simp, rfl⟩
        · -- The other entries have other names, so the first one does not hide them.
          have different : name ≠ other := by
            rintro rfl
            rw [new] at found
            cases found
          exact ⟨other, sub, below, bytes, bits, (if_neg different).trans found, file, rfl, rfl⟩
      · rintro ⟨other, sub, below, bytes, bits, found, file, rfl, rfl⟩
        rw [Directory.find?] at found
        split at found
        · rename_i same
          cases found
          exact Or.inl ⟨below, bytes, bits, file, by simp [same], rfl⟩
        · exact Or.inr ⟨other, sub, below, bytes, bits, found, file, rfl, rfl⟩

end

def Visit.filePlace? : Visit → Option (List Text)
  | .file place _ => some place
  | _ => none

theorem mem_file_places (visits : List Visit) (place : List Text) :
    place ∈ visits.filterMap Visit.filePlace? ↔ ∃ mode, Visit.file place mode ∈ visits := by
  rw [List.mem_filterMap]
  constructor
  · rintro ⟨visit, member, there⟩
    cases visit with
    | file own mode =>
        cases there
        exact ⟨mode, member⟩
    | other own => cases there
    | failure message => cases there
  · rintro ⟨mode, member⟩
    exact ⟨_, member, rfl⟩

mutual

theorem nodup_visits_at (place : List Text) :
    (tree : FileTree) → tree.Proper → ((visitsAt place tree).filterMap Visit.filePlace?).Nodup
  | .file _ _, _ => List.nodup_singleton place
  | .link _, _ => List.nodup_nil
  | .directory content, proper => nodup_visits_in place content proper

theorem nodup_visits_in (place : List Text) :
    (content : Directory) → content.Proper →
      ((visitsIn place content).filterMap Visit.filePlace?).Nodup
  | .empty, _ => List.nodup_nil
  | .entry name tree rest, proper => by
      obtain ⟨-, new, treeProper, restProper⟩ := proper
      rw [visitsIn, List.filterMap_append, List.nodup_append]
      refine ⟨nodup_visits_at _ tree treeProper, nodup_visits_in place rest restProper, ?_⟩
      intro early inTree late inRest same
      obtain ⟨mode, visited⟩ := (mem_file_places _ _).mp inTree
      obtain ⟨otherMode, otherVisited⟩ := (mem_file_places _ _).mp inRest
      obtain ⟨below, _, _, _, rfl, _⟩ := (mem_visits_at _ tree treeProper _ _).mp visited
      obtain ⟨other, sub, under, _, _, found, _, rfl, _⟩ :=
        (mem_visits_in place rest restProper _ _).mp otherVisited
      -- Below one directory the places differ in the name of the entry.
      have sameName : name = other := by
        simpa using congrArg (List.head? ∘ List.drop place.length) same
      rw [← sameName, new] at found
      cases found

end

/-- Visits to the regular files that can be read, to each once and in any order, among any others
and any failures. -/
structure Walk (tree : FileTree) (readable : List Text → Prop) (visits : List Visit) : Prop where
  once : (visits.filterMap Visit.filePlace?).Nodup
  reads : ∀ place mode, Visit.file place (.ok mode) ∈ visits ↔
    readable place ∧ ∃ bytes, tree.at? place = some (.file bytes mode)

theorem walk_visits_at (tree : FileTree) (proper : tree.Proper) :
    Walk tree (fun _ => True) (visitsAt [] tree) := by
  refine ⟨nodup_visits_at [] tree proper, ?_⟩
  intro place mode
  rw [mem_visits_at [] tree proper]
  constructor
  · rintro ⟨below, bytes, bits, file, rfl, same⟩
    cases same
    exact ⟨trivial, bytes, file⟩
  · rintro ⟨-, bytes, file⟩
    exact ⟨place, bytes, mode, file, rfl, rfl⟩

end Walks

section Names

/-- The extension of a name: what stands behind its last dot, if something stands before it. -/
def IsExtension (name ext : Text) : Prop :=
  ∃ before, before ≠ [] ∧ name = before ++ '.' :: ext ∧ '.' ∉ ext

theorem has_extension_iff (name : Text) :
    hasExtension name = true ↔ ∃ ext, IsExtension name ext := by
  unfold hasExtension IsExtension
  rw [List.contains_iff_mem]
  constructor
  · intro dotted
    -- The last dot is the first one from the end.
    obtain ⟨back, front, cut, last⟩ := List.eq_append_cons_of_mem (List.mem_reverse.mpr dotted)
    cases name with
    | nil => cases dotted
    | cons c rest =>
        refine ⟨back.reverse, c :: front.reverse, by simp, ?_, by simpa using last⟩
        have turned := congrArg List.reverse cut
        simp only [List.tail_cons, List.reverse_reverse, List.reverse_append, List.reverse_cons,
          List.append_assoc, List.singleton_append] at turned
        rw [turned, List.cons_append]
  · rintro ⟨ext, before, some, rfl, -⟩
    cases before with
    | nil => exact absurd rfl some
    | cons c rest => simp

theorem holds_iff (part text : Text) : Text.holds part text = true ↔ part <:+: text := by
  induction text with
  | nil => simp [Text.holds]
  | cons c rest ih =>
      rw [Text.holds, Bool.or_eq_true, ih, List.infix_cons_iff, Text.starts_with_iff,
        List.prefix_iff_exists_append_eq]
      simp only [eq_comm]

theorem is_executable_iff (mode : Nat) :
    isExecutable mode = false ↔ ∀ bit ∈ [0, 3, 6], mode.testBit bit = false := by
  have mask : ∀ bit, Nat.testBit 0o111 bit = decide (bit ∈ [0, 3, 6]) := by
    intro bit
    by_cases small : bit < 7
    · revert bit
      decide
    · have high : 0o111 < 2 ^ bit :=
        Nat.lt_of_lt_of_le (by decide) (Nat.pow_le_pow_right (by decide) (Nat.le_of_not_lt small))
      rw [Nat.testBit_lt_two_pow high, eq_comm, decide_eq_false_iff_not]
      intro member
      simp only [List.mem_cons, List.not_mem_nil, or_false] at member
      omega
  have every : isExecutable mode = false ↔ mode &&& 0o111 = 0 := by simp [isExecutable]
  rw [every, Nat.eq_iff_testBit_eq]
  simp only [Nat.testBit_and, mask, Nat.zero_testBit, Bool.and_eq_false_iff,
    decide_eq_false_iff_not]
  constructor
  · intro clear bit member
    exact (clear bit).resolve_right (not_not_intro member)
  · intro clear bit
    by_cases member : bit ∈ [0, 3, 6]
    · exact Or.inl (clear bit member)
    · exact Or.inr member

/-- The name of a file: that of its entry or, for the start itself, the one that the path ends in.
-/
def nameAt? (path : Text) (place : List Text) : Option Text :=
  place.getLast?.or (Path.fileName? path)

theorem components_path_of (path : Text) (place : List Text)
    (entries : ∀ name ∈ place, Path.IsEntry name) :
    Path.components (pathOf path place) =
      Path.components path ++ place.map Path.Component.name := by
  induction place generalizing path with
  | nil => simp [pathOf]
  | cons name rest ih =>
      obtain ⟨entry, later⟩ := List.forall_mem_cons.mp entries
      have deeper : pathOf path (name :: rest) = pathOf (Path.join path name) rest := rfl
      rw [deeper, ih _ later, Path.components_join path name entry]
      simp

theorem file_name_path_of (path : Text) (place : List Text)
    (entries : ∀ name ∈ place, Path.IsEntry name) :
    Path.fileName? (pathOf path place) = nameAt? path place := by
  unfold Path.fileName? nameAt?
  rw [components_path_of path place entries, List.getLast?_append, List.getLast?_map]
  cases place.getLast? with
  | none => rfl
  | some name => rfl

/-- A place whose name has no extension and holds the pattern, in small letters both. -/
def IsNamed (path pattern : Text) (place : List Text) : Prop :=
  (∀ name ∈ nameAt? path place, ∀ ext, ¬IsExtension name ext) ∧
    Text.lower pattern <:+: Text.lower ((nameAt? path place).getD path)

theorem is_wanted_iff (path pattern : Text) (place : List Text)
    (entries : ∀ name ∈ place, Path.IsEntry name) :
    isWanted pattern (pathOf path place) = true ↔ IsNamed path pattern place := by
  have extension : (nameAt? path place).any hasExtension = false ↔
      ∀ name ∈ nameAt? path place, ∀ ext, ¬IsExtension name ext := by
    rw [Option.any_eq_false]
    apply forall₂_congr
    intro name named
    rw [← Bool.not_eq_true, has_extension_iff, not_exists]
  have whole : (nameAt? path place).getD (pathOf path place) = (nameAt? path place).getD path := by
    cases place with
    | nil => rfl
    | cons name rest => simp [nameAt?, List.getLast?_cons]
  unfold isWanted IsNamed
  rw [file_name_path_of path place entries, Bool.and_eq_true, Bool.not_eq_true', extension,
    holds_iff,
    whole]

end Names

section Selection

variable {path pattern : Text}

theorem judge_path_iff (visit : Visit) (file : Text) :
    (judge path pattern visit).path? = some file ↔
      ∃ place mode, visit = .file place (.ok mode) ∧ isWanted pattern (pathOf path place) = true ∧
        isExecutable mode = false ∧ pathOf path place = file := by
  cases visit with
  | failure message => simp [judge, Verdict.path?]
  | other place => simp [judge, Verdict.path?]
  | file place mode =>
      cases mode with
      | error message =>
          by_cases wanted : isWanted pattern (pathOf path place) = true
          · simp [judge, wanted, Verdict.path?]
          · simp [judge, wanted, Verdict.path?]
      | ok mode =>
          by_cases wanted : isWanted pattern (pathOf path place) = true
          · by_cases executable : isExecutable mode = true
            · simp [judge, wanted, executable, Verdict.path?]
            · simp [judge, wanted, executable, Verdict.path?]
          · simp [judge, wanted, Verdict.path?]

/-- A regular file with a wanted name that nobody may execute. -/
def IsCandidate (tree : FileTree) (path pattern : Text) (place : List Text) : Prop :=
  ∃ bytes mode, tree.at? place = some (.file bytes mode) ∧ IsNamed path pattern place ∧
    ∀ bit ∈ [0, 3, 6], mode.testBit bit = false

variable {tree : FileTree} {readable : List Text → Prop} {visits : List Visit}

theorem mem_select (proper : tree.Proper) (walk : Walk tree readable visits) (file : Text) :
    file ∈ select path pattern visits ↔
      ∃ place, readable place ∧ IsCandidate tree path pattern place ∧ pathOf path place = file := by
  unfold select
  rw [(Path.sort_perm _).mem_iff, List.mem_filterMap]
  simp only [judge_path_iff]
  constructor
  · rintro ⟨_, visited, place, mode, rfl, wanted, unexecutable, same⟩
    obtain ⟨read, bytes, found⟩ := (walk.reads place mode).mp visited
    obtain ⟨entries, -⟩ := proper.of_at found
    exact ⟨place, read, ⟨bytes, mode, found, (is_wanted_iff path pattern place entries).mp wanted,
      (is_executable_iff mode).mp unexecutable⟩, same⟩
  · rintro ⟨place, read, ⟨bytes, mode, found, named, unexecutable⟩, same⟩
    obtain ⟨entries, -⟩ := proper.of_at found
    exact ⟨_, (walk.reads place mode).mpr ⟨read, bytes, found⟩, place, mode, rfl,
      (is_wanted_iff path pattern place entries).mpr named,
      (is_executable_iff mode).mpr unexecutable,
      same⟩

/-- Different files have different paths. -/
theorem select_ascends (proper : tree.Proper) (walk : Walk tree readable visits) :
    (select path pattern visits).Pairwise Path.Before := by
  apply Path.sort_ascends
  rw [List.pairwise_filterMap]
  have apart := List.pairwise_filterMap.mp walk.once
  refine apart.imp_of_mem ?_
  intro left right leftVisited rightVisited different file leftFile other rightFile same
  obtain ⟨place, mode, rfl, -, -, rfl⟩ := (judge_path_iff left file).mp leftFile
  obtain ⟨otherPlace, otherMode, rfl, -, -, rfl⟩ := (judge_path_iff right other).mp rightFile
  obtain ⟨-, bytes, found⟩ := (walk.reads place mode).mp leftVisited
  obtain ⟨-, otherBytes, otherFound⟩ := (walk.reads otherPlace otherMode).mp rightVisited
  rw [components_path_of path place (proper.of_at found).1,
    components_path_of path otherPlace (proper.of_at otherFound).1,
    List.append_cancel_left_eq] at same
  have injective : Function.Injective Path.Component.name := fun _ _ equal => by
    cases equal
    rfl
  exact different place rfl otherPlace rfl (injective.list_map same)

end Selection

section Starting

/-- What a search from a path looks through: what is there, or the directory that a link there leads
to. -/
def StartsAt (system : FileSystem) (path : Text) (tree : FileTree) : Prop :=
  (Path.resolve system false path = .ok tree ∧ ∀ target, tree ≠ .link target) ∨
    ∃ target content, Path.resolve system false path = .ok (.link target) ∧
      Path.resolve system true path = .ok (.directory content) ∧ tree = .directory content

theorem start_of_starts_at {system : FileSystem} {path : Text} {tree : FileTree}
    (starts : StartsAt system path tree) : start system path = .ok tree := by
  unfold start
  rcases starts with ⟨resolved, noLink⟩ | ⟨target, content, linked, resolved, rfl⟩
  · rw [resolved]
    cases tree with
    | file bytes mode => rfl
    | link target => exact absurd rfl (noLink target)
    | directory content => rfl
  · rw [linked]
    dsimp only
    rw [resolved]

theorem starts_at_of_start {system : FileSystem} {path : Text} {tree : FileTree}
    (started : start system path = .ok tree) (noLink : ∀ target, tree ≠ .link target) :
    StartsAt system path tree := by
  unfold start at started
  cases resolved : Path.resolve system false path with
  | error failure =>
      rw [resolved] at started
      cases started
  | ok first =>
      rw [resolved] at started
      cases first with
      | file bytes mode =>
          cases started
          exact Or.inl ⟨resolved, noLink⟩
      | directory content =>
          cases started
          exact Or.inl ⟨resolved, noLink⟩
      | link target =>
          dsimp only at started
          cases further : Path.resolve system true path with
          | error failure =>
              rw [further] at started
              cases started
          | ok second =>
              rw [further] at started
              cases second with
              | directory content =>
                  cases started
                  exact Or.inr ⟨target, content, resolved, further, rfl⟩
              | file bytes mode =>
                  cases started
                  exact absurd rfl (noLink target)
              | link other =>
                  cases started
                  exact absurd rfl (noLink target)

theorem StartsAt.proper {system : FileSystem} {path : Text} {tree : FileTree}
    (starts : StartsAt system path tree) (proper : system.root.Proper) : tree.Proper := by
  rcases starts with ⟨resolved, -⟩ | ⟨target, content, -, resolved, rfl⟩
  · obtain ⟨place, found⟩ := Path.at_of_resolve resolved
    exact (proper.of_at found).2
  · obtain ⟨place, found⟩ := Path.at_of_resolve resolved
    exact (proper.of_at found).2

/-- A search that has nothing to look through finds nothing. -/
theorem discover_eq_nil {system : FileSystem} {path pattern : Text}
    (nowhere : ∀ tree, ¬StartsAt system path tree) : discover system path pattern = [] := by
  unfold discover walk
  cases started : start system path with
  | error failure => rfl
  | ok tree =>
      cases tree with
      | link target => rfl
      | file bytes mode => exact absurd (starts_at_of_start started nofun) (nowhere _)
      | directory content => exact absurd (starts_at_of_start started nofun) (nowhere _)

theorem discover_of_starts_at {system : FileSystem} {path : Text} {tree : FileTree}
    (starts : StartsAt system path tree) (pattern : Text) :
    discover system path pattern = select path pattern (visitsAt [] tree) := by
  unfold discover walk
  rw [start_of_starts_at starts]

end Starting

/-- A search finds the candidates at and below its start, in the order of paths and each once. Any
walk through the same tree finds the same, whatever its order; if it cannot read some entries it
finds all candidates but those. -/
theorem discover_selects_candidates (system : FileSystem) (path pattern : Text)
    (proper : system.root.Proper) :
    (discover system path pattern).Pairwise Path.Before ∧
      (∀ file, file ∈ discover system path pattern ↔
        ∃ tree, StartsAt system path tree ∧
          ∃ place, IsCandidate tree path pattern place ∧ pathOf path place = file) ∧
      ∀ tree, StartsAt system path tree → ∀ (readable : List Text → Prop) (visits : List Visit),
        Walk tree readable visits →
          (select path pattern visits).Pairwise Path.Before ∧
          (∀ file, file ∈ select path pattern visits ↔
            ∃ place, readable place ∧ IsCandidate tree path pattern place ∧
              pathOf path place = file) ∧
          ((∀ place, readable place) →
            select path pattern visits = discover system path pattern) := by
  have found : ∀ tree, StartsAt system path tree →
      (discover system path pattern).Pairwise Path.Before ∧
        ∀ file, file ∈ discover system path pattern ↔
          ∃ place, IsCandidate tree path pattern place ∧ pathOf path place = file := by
    intro tree starts
    have treeProper := starts.proper proper
    have walk := walk_visits_at tree treeProper
    rw [discover_of_starts_at starts]
    refine ⟨select_ascends treeProper walk, ?_⟩
    intro file
    rw [mem_select treeProper walk]
    simp only [true_and]
  refine ⟨?_, ?_, ?_⟩
  · by_cases somewhere : ∃ tree, StartsAt system path tree
    · obtain ⟨tree, starts⟩ := somewhere
      exact (found tree starts).1
    · rw [discover_eq_nil (not_exists.mp somewhere)]
      exact List.Pairwise.nil
  · intro file
    constructor
    · intro member
      by_cases somewhere : ∃ tree, StartsAt system path tree
      · obtain ⟨tree, starts⟩ := somewhere
        exact ⟨tree, starts, ((found tree starts).2 file).mp member⟩
      · rw [discover_eq_nil (not_exists.mp somewhere)] at member
        cases member
    · rintro ⟨tree, starts, candidate⟩
      exact ((found tree starts).2 file).mpr candidate
  · intro tree starts readable visits walk
    have treeProper := starts.proper proper
    have ascends : (select path pattern visits).Pairwise Path.Before :=
      select_ascends treeProper walk
    refine ⟨ascends, mem_select treeProper walk, ?_⟩
    intro all
    apply Path.ascending_eq_of_same_members _ _ ascends (found tree starts).1
    intro file
    rw [mem_select treeProper walk, (found tree starts).2 file]
    simp only [all, true_and]

def twoFiles : Directory :=
  .entry "Dockerfile".toList (.file [] 0o644) (.entry "dockerfile".toList (.file [] 0o755) .empty)

def linkedFiles : FileSystem :=
  ⟨.directory (.entry "s".toList (.directory twoFiles)
    (.entry "way".toList (.link "s".toList) .empty)),
    []⟩

def brokenVisits : List Visit :=
  [.file ["dockerfile".toList] (.ok 0o755), .failure "denied".toList,
    .file ["Dockerfile".toList] (.ok 0o644)]

theorem proper_linked_files : linkedFiles.root.Proper := by
  have names : ∀ name ∈ ["s".toList, "way".toList, "Dockerfile".toList, "dockerfile".toList],
      name ≠ [] ∧ '/' ∉ name ∧ name ≠ ['.'] ∧ name ≠ ['.', '.'] := by decide
  have entry : ∀ name ∈ ["s".toList, "way".toList, "Dockerfile".toList, "dockerfile".toList],
      Path.IsEntry name := by
    intro name member
    obtain ⟨some, unslashed, notHere, notUp⟩ := names name member
    exact ⟨some, unslashed, notHere, notUp⟩
  simp only [linkedFiles, twoFiles, FileTree.Proper, Directory.Proper, and_true, true_and]
  exact ⟨entry _ (by simp), rfl, ⟨entry _ (by simp), rfl, entry _ (by simp), rfl⟩,
    entry _ (by simp), rfl⟩

theorem walk_broken_visits (proper : (FileTree.directory twoFiles).Proper) :
    Walk (.directory twoFiles) (fun _ => True) brokenVisits := by
  refine ⟨by decide, ?_⟩
  intro place mode
  rw [← (walk_visits_at _ proper).reads place mode]
  simp [brokenVisits, twoFiles, visitsAt, visitsIn, or_comm]

theorem discover_follows_link_and_skips_failure :
    (discover linkedFiles "way".toList "DOCKER".toList).Pairwise Path.Before ∧
      (∃ tree, StartsAt linkedFiles "way".toList tree ∧
        ∃ place, IsCandidate tree "way".toList "DOCKER".toList place ∧
          pathOf "way".toList place = "way/Dockerfile".toList) ∧
      select "way".toList "DOCKER".toList brokenVisits =
        discover linkedFiles "way".toList "DOCKER".toList := by
  obtain ⟨ascends, members, walks⟩ := discover_selects_candidates linkedFiles "way".toList
    "DOCKER".toList proper_linked_files
  have starts : StartsAt linkedFiles "way".toList (.directory twoFiles) :=
    Or.inr ⟨_, _, rfl, rfl, rfl⟩
  have listed : "way/Dockerfile".toList ∈ discover linkedFiles "way".toList "DOCKER".toList := by
    decide +kernel
  obtain ⟨-, -, same⟩ :=
    walks _ starts _ _ (walk_broken_visits (starts.proper proper_linked_files))
  exact ⟨ascends, (members _).mp listed, same fun _ => trivial⟩

end Discover
end DockerfileAudit
