import DockerfileAudit.Tree.Path

/-!
What is written to a path is read from it again. A look-up that ends at a slot, a file or a name
that a directory lacks, passes only directories and links on its way. A file that is put into the
slot leaves those where they are, so the same look-up finds it.
-/
set_option autoImplicit false

namespace DockerfileAudit

namespace Utf8

theorem decode_one (code : Nat) (rest : List Nat) (short : code < 0x80) :
    decode (code :: rest) = (decode rest).map (Char.ofNat code :: ·) := by
  rw [decode.eq_def]
  exact if_pos short

theorem is_continuation_low (low : Nat) : isContinuation (0x80 + low % 64) = true := by
  simp only [isContinuation, Bool.and_eq_true, decide_eq_true_eq]
  omega

theorem decode_two (code : Nat) (rest : List Nat) (long : 0x80 ≤ code) (short : code < 0x800) :
    decode ((0xC0 + code / 64) :: (0x80 + code % 64) :: rest) =
      (decode rest).map (Char.ofNat code :: ·) := by
  have notOne : ¬0xC0 + code / 64 < 0x80 := by omega
  have two : 0xC2 ≤ 0xC0 + code / 64 ∧ 0xC0 + code / 64 ≤ 0xDF := by omega
  have value : (0xC0 + code / 64 - 0xC0) * 64 + (0x80 + code % 64 - 0x80) = code := by omega
  rw [decode.eq_def]
  dsimp only
  rw [if_neg notOne, if_pos two, if_pos (is_continuation_low code), value]

theorem decode_three (code : Nat) (rest : List Nat) (long : 0x800 ≤ code) (short : code < 0x10000)
    (valid : code < 0xD800 ∨ 0xDFFF < code) :
    decode ((0xE0 + code / 4096) :: (0x80 + code / 64 % 64) :: (0x80 + code % 64) :: rest) =
      (decode rest).map (Char.ofNat code :: ·) := by
  have notOne : ¬0xE0 + code / 4096 < 0x80 := by omega
  have notTwo : ¬(0xC2 ≤ 0xE0 + code / 4096 ∧ 0xE0 + code / 4096 ≤ 0xDF) := by omega
  have three : 0xE0 ≤ 0xE0 + code / 4096 ∧ 0xE0 + code / 4096 ≤ 0xEF := by omega
  have value : (0xE0 + code / 4096 - 0xE0) * 4096 + (0x80 + code / 64 % 64 - 0x80) * 64 +
      (0x80 + code % 64 - 0x80) = code := by omega
  have noSurrogate : ¬(0xD800 ≤ code ∧ code ≤ 0xDFFF) := by omega
  rw [decode.eq_def]
  dsimp only
  rw [if_neg notOne, if_neg notTwo, if_pos three, value, is_continuation_low, is_continuation_low]
  simp [long, noSurrogate]

theorem decode_four (code : Nat) (rest : List Nat) (long : 0x10000 ≤ code)
    (short : code < 0x110000) :
    decode ((0xF0 + code / 262144) :: (0x80 + code / 4096 % 64) :: (0x80 + code / 64 % 64) ::
        (0x80 + code % 64) :: rest) = (decode rest).map (Char.ofNat code :: ·) := by
  have notOne : ¬0xF0 + code / 262144 < 0x80 := by omega
  have notTwo : ¬(0xC2 ≤ 0xF0 + code / 262144 ∧ 0xF0 + code / 262144 ≤ 0xDF) := by omega
  have notThree : ¬(0xE0 ≤ 0xF0 + code / 262144 ∧ 0xF0 + code / 262144 ≤ 0xEF) := by omega
  have four : 0xF0 ≤ 0xF0 + code / 262144 ∧ 0xF0 + code / 262144 ≤ 0xF4 := by omega
  have value : (0xF0 + code / 262144 - 0xF0) * 262144 + (0x80 + code / 4096 % 64 - 0x80) * 4096 +
      (0x80 + code / 64 % 64 - 0x80) * 64 + (0x80 + code % 64 - 0x80) = code := by omega
  have last : code ≤ 0x10FFFF := by omega
  rw [decode.eq_def]
  dsimp only
  rw [if_neg notOne, if_neg notTwo, if_neg notThree, if_pos four, value, is_continuation_low,
    is_continuation_low, is_continuation_low]
  simp [long, last]

theorem decode_encode_char (c : Char) (rest : List Nat) :
    decode (encodeChar c ++ rest) = (decode rest).map (c :: ·) := by
  have valid : c.toNat < 0xD800 ∨ 0xDFFF < c.toNat ∧ c.toNat < 0x110000 := c.valid
  have same : Char.ofNat c.toNat = c := Char.ofNat_toNat c
  unfold encodeChar
  dsimp only
  generalize c.toNat = code at valid same
  rw [← same]
  split
  · rename_i one
    exact decode_one code rest one
  · split
    · rename_i notOne two
      exact decode_two code rest (by omega) two
    · split
      · rename_i notTwo three
        exact decode_three code rest (by omega) three (by omega)
      · rename_i notThree
        exact decode_four code rest (by omega) (by omega)

theorem decode_encode (text : Text) : decode (encode text) = some text := by
  induction text with
  | nil => rfl
  | cons c rest ih =>
      rw [encode, List.flatMap_cons, decode_encode_char]
      rw [encode] at ih
      rw [ih]
      rfl

end Utf8

namespace Directory

theorem find_put (name wanted : Text) (new : FileTree) (content : Directory) :
    (content.put name new).find? wanted =
      if name = wanted then some new else content.find? wanted := by
  fun_induction put name new content with
  | case1 => rfl
  | case2 tree rest =>
      rw [find?, find?]
      split <;> rfl
  | case3 other tree rest different ih =>
      rw [find?, find?, ih]
      by_cases same : name = wanted
      · subst same
        rw [if_neg different, if_pos rfl, if_pos rfl]
      · rw [if_neg same, if_neg same]

end Directory

namespace FileTree

theorem at_append (front back : List Text) (tree : FileTree) :
    tree.at? (front ++ back) = (tree.at? front).bind (at? back) := by
  induction front generalizing tree with
  | nil => rfl
  | cons name rest ih =>
      cases tree with
      | directory content =>
          rw [List.cons_append, at?, at?]
          cases content.find? name with
          | none => rfl
          | some sub => exact ih sub
      | file bytes mode => rfl
      | link target => rfl

theorem at_put_self (new : FileTree) (slot : List Text) (root : FileTree) :
    (put new slot root).at? slot = some new := by
  induction slot generalizing root with
  | nil => rfl
  | cons name rest ih =>
      cases root with
      | directory content =>
          rw [put, at?, Directory.find_put, if_pos rfl]
          exact ih _
      | file bytes mode =>
          rw [put, at?, Directory.find_put, if_pos rfl]
          · exact ih _
          · simp
      | link target =>
          rw [put, at?, Directory.find_put, if_pos rfl]
          · exact ih _
          · simp

/-- Away from the slot a tree is unchanged; on the way to the slot there are directories. -/
theorem at_put_other (new tree : FileTree) (slot place : List Text) (root : FileTree)
    (apart : ¬slot <+: place) (found : root.at? place = some tree) :
    (put new slot root).at? place = some tree ∨
      place <+: slot ∧ ∃ content, (put new slot root).at? place = some (.directory content) := by
  induction slot generalizing place root with
  | nil => exact absurd List.nil_prefix apart
  | cons name rest ih =>
      cases place with
      | nil =>
          refine Or.inr ⟨List.nil_prefix, ?_⟩
          cases root with
          | directory content => exact ⟨_, rfl⟩
          | file bytes mode => exact ⟨_, rfl⟩
          | link target => exact ⟨_, rfl⟩
      | cons first place =>
          cases root with
          | file bytes mode => simp [at?] at found
          | link target => simp [at?] at found
          | directory content =>
              rw [at?] at found
              obtain ⟨sub, present, below⟩ := Option.bind_eq_some_iff.mp found
              rw [put, at?, Directory.find_put]
              by_cases same : name = first
              · subst same
                rw [if_pos rfl, present]
                have deeper : ¬rest <+: place := by
                  intro further
                  exact apart ((List.prefix_cons_inj name).mpr further)
                rcases ih place sub deeper below with kept | ⟨onTheWay, held⟩
                · exact Or.inl kept
                · exact Or.inr ⟨(List.prefix_cons_inj name).mpr onTheWay, held⟩
              · rw [if_neg same, present]
                exact Or.inl below

def IsDirectory (root : FileTree) (place : List Text) : Prop :=
  ∃ content, root.at? place = some (.directory content)

/-- A place for a file: one is there, or nothing. -/
def IsSlot (root : FileTree) (place : List Text) : Prop :=
  root.at? place = none ∨ ∃ bytes mode, root.at? place = some (.file bytes mode)

theorem IsDirectory.of_below {root : FileTree} {place rest : List Text} {tree : FileTree}
    (found : root.at? (place ++ rest) = some tree) (further : rest ≠ []) :
    root.IsDirectory place := by
  rw [at_append] at found
  obtain ⟨sub, present, below⟩ := Option.bind_eq_some_iff.mp found
  cases rest with
  | nil => exact absurd rfl further
  | cons name rest =>
      cases sub with
      | directory content => exact ⟨content, present⟩
      | file bytes mode => simp [at?] at below
      | link target => simp [at?] at below

theorem IsDirectory.of_prefix {root : FileTree} {upper place : List Text}
    (directory : root.IsDirectory place) (above : upper <+: place) : root.IsDirectory upper := by
  obtain ⟨rest, rfl⟩ := above
  obtain ⟨content, found⟩ := directory
  by_cases further : rest = []
  · rw [further, List.append_nil] at found
    exact ⟨content, found⟩
  · exact IsDirectory.of_below found further

theorem IsSlot.not_above {root : FileTree} {slot place : List Text} {tree : FileTree}
    (free : root.IsSlot slot) (found : root.at? place = some tree) (above : slot <+: place) :
    ∃ bytes mode, tree = .file bytes mode := by
  obtain ⟨rest, rfl⟩ := above
  by_cases further : rest = []
  · rw [further, List.append_nil] at found
    rcases free with nothing | ⟨bytes, mode, file⟩
    · rw [nothing] at found
      simp at found
    · rw [file] at found
      exact ⟨bytes, mode, (Option.some.inj found).symm⟩
  · obtain ⟨content, directory⟩ := IsDirectory.of_below found further
    rcases free with nothing | ⟨bytes, mode, file⟩
    · rw [nothing] at directory
      simp at directory
    · rw [file] at directory
      simp at directory

theorem IsDirectory.put {root : FileTree} {slot place : List Text} (new : FileTree)
    (directory : root.IsDirectory place) (free : root.IsSlot slot) :
    (put new slot root).IsDirectory place := by
  obtain ⟨content, found⟩ := directory
  have apart : ¬slot <+: place := by
    intro above
    obtain ⟨bytes, mode, file⟩ := free.not_above found above
    simp at file
  rcases at_put_other new _ slot place root apart found with kept | ⟨-, held⟩
  · exact ⟨content, kept⟩
  · exact held

/-- The way to a place does not pass a link. -/
def NoLinkTo (root : FileTree) (slot : List Text) : Prop :=
  ∀ place target, place <+: slot → root.at? place ≠ some (.link target)

theorem IsDirectory.no_link_to {root : FileTree} {place : List Text} {name : Text}
    (directory : root.IsDirectory place) (free : root.IsSlot (place ++ [name])) :
    root.NoLinkTo (place ++ [name]) := by
  intro upper target onTheWay found
  rcases List.prefix_concat_iff.mp onTheWay with same | above
  · rw [same] at found
    obtain ⟨bytes, mode, file⟩ := free.not_above found (List.prefix_refl _)
    simp at file
  · obtain ⟨content, held⟩ := directory.of_prefix above
    rw [held] at found
    simp at found

theorem link_put {root : FileTree} {slot place : List Text} {target : Text} (new : FileTree)
    (found : root.at? place = some (.link target)) (free : root.IsSlot slot)
    (noLink : root.NoLinkTo slot) : (put new slot root).at? place = some (.link target) := by
  have apart : ¬slot <+: place := by
    intro above
    obtain ⟨bytes, mode, file⟩ := free.not_above found above
    simp at file
  rcases at_put_other new _ slot place root apart found with kept | ⟨onTheWay, -⟩
  · exact kept
  · exact absurd found (noLink place target onTheWay)

end FileTree

namespace Path

def IsName (name : Text) : Prop :=
  name ≠ ['.'] ∧ name ≠ ['.', '.'] ∧ ¬longestName < byteLength name

inductive Ends (root : FileTree) (follow : Bool) : List Text → List Text → Lookup → Prop
  | here (place : List Text) (tree : FileTree) (found : root.at? place = some tree) :
      Ends root follow place [] (.found place tree)
  | stay (place rest : List Text) (result : Lookup) (after : Ends root follow place rest result) :
      Ends root follow place (['.'] :: rest) result
  | up (place rest : List Text) (result : Lookup)
      (after : Ends root follow place.dropLast rest result) :
      Ends root follow place (['.', '.'] :: rest) result
  | missing (place : List Text) (name : Text) (named : IsName name)
      (absent : root.at? (place ++ [name]) = none) :
      Ends root follow place [name] (.missing place name)
  | file (place : List Text) (name : Text) (bytes : List Nat) (mode : Nat) (named : IsName name)
      (found : root.at? (place ++ [name]) = some (.file bytes mode)) :
      Ends root follow place [name] (.found (place ++ [name]) (.file bytes mode))
  | lastLink (place : List Text) (name target : Text) (named : IsName name)
      (found : root.at? (place ++ [name]) = some (.link target)) (kept : follow = false) :
      Ends root follow place [name] (.found (place ++ [name]) (.link target))
  | link (place rest : List Text) (name target : Text) (named : IsName name)
      (found : root.at? (place ++ [name]) = some (.link target))
      (followed : ¬(rest.isEmpty && !follow) = true) :
      Ends root follow place (name :: rest) (.link place target rest)
  | enter (place rest : List Text) (name : Text) (result : Lookup) (named : IsName name)
      (directory : root.IsDirectory (place ++ [name]))
      (after : Ends root follow (place ++ [name]) rest result) :
      Ends root follow place (name :: rest) result

def Lookup.slot? : Lookup → Option (List Text)
  | .found place (.file _ _) => some place
  | .missing place name => some (place ++ [name])
  | _ => none

section Descending

variable {root : FileTree} {follow : Bool} {place names : List Text} {result : Lookup}

theorem Ends.of_descend (reached : descend root follow place names = .ok result) :
    Ends root follow place names result := by
  fun_induction descend root follow place names with
  | case1 place tree found =>
      cases reached
      exact .here place tree found
  | case2 place absent => cases reached
  | case3 place rest ih => exact .stay place rest result (ih reached)
  | case4 place rest different ih => exact .up place rest result (ih reached)
  | case5 place name rest noDot noDots long => cases reached
  | case6 place name rest noDot noDots short absent last =>
      cases reached
      rw [List.isEmpty_iff.mp last]
      exact .missing place name ⟨noDot, noDots, short⟩ absent
  | case7 place name rest noDot noDots short absent more => cases reached
  | case8 place name rest noDot noDots short bytes mode found last =>
      cases reached
      rw [List.isEmpty_iff.mp last]
      exact .file place name bytes mode ⟨noDot, noDots, short⟩ found
  | case9 place name rest noDot noDots short bytes mode found more => cases reached
  | case10 place name rest noDot noDots short target found kept =>
      cases reached
      obtain ⟨last, off⟩ := Bool.and_eq_true_iff.mp kept
      rw [List.isEmpty_iff.mp last]
      exact .lastLink place name target ⟨noDot, noDots, short⟩ found (by simpa using off)
  | case11 place name rest noDot noDots short target found followed =>
      cases reached
      exact .link place rest name target ⟨noDot, noDots, short⟩ found followed
  | case12 place name rest noDot noDots short content found ih =>
      exact .enter place rest name result ⟨noDot, noDots, short⟩ ⟨content, found⟩ (ih reached)

theorem descend_name (rest : List Text) (name : Text) (named : IsName name) :
    descend root follow place (name :: rest) =
      match root.at? (place ++ [name]) with
      | none => if rest.isEmpty then .ok (.missing place name) else .error .notFound
      | some (.file bytes mode) =>
          if rest.isEmpty then .ok (.found (place ++ [name]) (.file bytes mode))
          else .error .notDirectory
      | some (.link target) =>
          if rest.isEmpty && !follow then .ok (.found (place ++ [name]) (.link target))
          else .ok (.link place target rest)
      | some (.directory _) => descend root follow (place ++ [name]) rest := by
  obtain ⟨noDot, noDots, short⟩ := named
  rw [descend, if_neg noDot, if_neg noDots]
  exact if_neg short

theorem Ends.descend_eq (ends : Ends root follow place names result) :
    descend root follow place names = .ok result := by
  induction ends with
  | here place tree found => rw [descend, found]
  | stay place rest result after ih => rw [descend, if_pos rfl, ih]
  | up place rest result after ih => rw [descend, if_neg (by decide), if_pos rfl, ih]
  | missing place name named absent =>
      rw [descend_name _ _ named, absent]
      rfl
  | file place name bytes mode named found =>
      rw [descend_name _ _ named, found]
      rfl
  | lastLink place name target named found kept =>
      rw [descend_name _ _ named, found, kept]
      rfl
  | link place rest name target named found followed =>
      rw [descend_name _ _ named, found]
      exact if_neg followed
  | enter place rest name result named directory after ih =>
      obtain ⟨content, found⟩ := directory
      rw [descend_name _ _ named, found]
      exact ih

theorem Ends.is_slot {slot : List Text} (ends : Ends root follow place names result)
    (slotIs : result.slot? = some slot) : root.IsSlot slot := by
  induction ends with
  | here place tree found =>
      cases tree with
      | file bytes mode =>
          cases slotIs
          exact Or.inr ⟨bytes, mode, found⟩
      | link target => simp [Lookup.slot?] at slotIs
      | directory content => simp [Lookup.slot?] at slotIs
  | stay place rest result after ih => exact ih slotIs
  | up place rest result after ih => exact ih slotIs
  | missing place name named absent =>
      cases slotIs
      exact Or.inl absent
  | file place name bytes mode named found =>
      cases slotIs
      exact Or.inr ⟨bytes, mode, found⟩
  | lastLink place name target named found kept => simp [Lookup.slot?] at slotIs
  | link place rest name target named found followed => simp [Lookup.slot?] at slotIs
  | enter place rest name result named directory after ih => exact ih slotIs

/-- From a directory, a slot is reached through directories only. -/
theorem Ends.no_link_to {slot : List Text} (ends : Ends root follow place names result)
    (slotIs : result.slot? = some slot) (inside : root.IsDirectory place) : root.NoLinkTo slot := by
  have free := ends.is_slot slotIs
  induction ends with
  | here place tree found =>
      obtain ⟨content, held⟩ := inside
      rw [held] at found
      cases found
      simp [Lookup.slot?] at slotIs
  | stay place rest result after ih => exact ih slotIs inside
  | up place rest result after ih =>
      exact ih slotIs (inside.of_prefix (List.dropLast_prefix place))
  | missing place name named absent =>
      cases slotIs
      exact inside.no_link_to free
  | file place name bytes mode named found =>
      cases slotIs
      exact inside.no_link_to free
  | lastLink place name target named found kept => simp [Lookup.slot?] at slotIs
  | link place rest name target named found followed => simp [Lookup.slot?] at slotIs
  | enter place rest name result named directory after ih => exact ih slotIs directory

/-- The file that is put into a slot is found where the way to the slot ended. -/
theorem Ends.put {slot : List Text} (ends : Ends root follow place names result)
    (slotIs : result.slot? = some slot) (bytes : List Nat) (mode : Nat) :
    Ends (FileTree.put (.file bytes mode) slot root) follow place names
      (.found slot (.file bytes mode)) := by
  have free := ends.is_slot slotIs
  have written := FileTree.at_put_self (.file bytes mode) slot root
  induction ends with
  | here place tree found =>
      cases tree with
      | file old oldMode =>
          cases slotIs
          exact .here _ _ written
      | link target => simp [Lookup.slot?] at slotIs
      | directory content => simp [Lookup.slot?] at slotIs
  | stay place rest result after ih => exact .stay place rest _ (ih slotIs)
  | up place rest result after ih => exact .up place rest _ (ih slotIs)
  | missing place name named absent =>
      cases slotIs
      exact .file place name bytes mode named written
  | file place name old oldMode named found =>
      cases slotIs
      exact .file place name bytes mode named written
  | lastLink place name target named found kept => simp [Lookup.slot?] at slotIs
  | link place rest name target named found followed => simp [Lookup.slot?] at slotIs
  | enter place rest name result named directory after ih =>
      exact .enter place rest name _ named (directory.put _ free) (ih slotIs)

theorem Ends.is_directory_of_link {holder rest : List Text} {target : Text}
    (ends : Ends root follow place names (.link holder target rest)) : root.IsDirectory holder := by
  generalize linked : Lookup.link holder target rest = result at ends
  induction ends with
  | here place tree found => cases linked
  | stay place rest result after ih => exact ih linked
  | up place rest result after ih => exact ih linked
  | missing place name named absent => cases linked
  | file place name bytes mode named found => cases linked
  | lastLink place name target named found kept => cases linked
  | link place rest name target named found followed =>
      cases linked
      exact FileTree.IsDirectory.of_below found (by simp)
  | enter place rest name result named directory after ih => exact ih linked

/-- A file that is put into a slot does not stand in the way to a link. -/
theorem Ends.put_link {holder rest slot : List Text} {target : Text}
    (ends : Ends root follow place names (.link holder target rest)) (new : FileTree)
    (free : root.IsSlot slot) (noLink : root.NoLinkTo slot) :
    Ends (FileTree.put new slot root) follow place names (.link holder target rest) := by
  generalize linked : Lookup.link holder target rest = result at ends
  induction ends with
  | here place tree found => cases linked
  | stay place rest result after ih => exact .stay place rest _ (ih linked)
  | up place rest result after ih => exact .up place rest _ (ih linked)
  | missing place name named absent => cases linked
  | file place name bytes mode named found => cases linked
  | lastLink place name target named found kept => cases linked
  | link place rest name target named found followed =>
      exact .link place rest name target named (FileTree.link_put new found free noLink) followed
  | enter place rest name result named directory after ih =>
      exact .enter place rest name _ named (directory.put new free) (ih linked)

end Descending

section Chasing

variable {root : FileTree} {follow : Bool} {links : Nat} {place names : List Text}
  {directory : Bool}

/-- A chase ends where its first descent ends, or goes on behind a link. -/
theorem chase_cases {result : Lookup} {wanted : Bool}
    (reached : chase root follow links place names directory = .ok (result, wanted)) :
    (Ends root (follow || directory) place names result ∧ wanted = directory) ∨
      ∃ holder target rest fewer,
        Ends root (follow || directory) place names (.link holder target rest) ∧
        links = fewer + 1 ∧
        chase root follow fewer (origin holder target) (parts target ++ rest)
          (directory || (rest.isEmpty && wantsDirectory target)) = .ok (result, wanted) := by
  unfold chase at reached
  cases descended : descend root (follow || directory) place names with
  | error failure =>
      rw [descended] at reached
      cases reached
  | ok first =>
      have ends := Ends.of_descend descended
      rw [descended] at reached
      cases first with
      | found spot tree =>
          cases reached
          exact Or.inl ⟨ends, rfl⟩
      | missing spot name =>
          cases reached
          exact Or.inl ⟨ends, rfl⟩
      | link holder target rest =>
          cases links with
          | zero => cases reached
          | succ fewer => exact Or.inr ⟨holder, target, rest, fewer, ends, rfl, reached⟩

theorem chase_found {spot : List Text} {tree : FileTree}
    (ends : Ends root (follow || directory) place names (.found spot tree)) :
    chase root follow links place names directory = .ok (.found spot tree, directory) := by
  unfold chase
  rw [ends.descend_eq]

theorem chase_link {holder rest : List Text} {target : Text}
    (ends : Ends root (follow || directory) place names (.link holder target rest)) :
    chase root follow (links + 1) place names directory =
      chase root follow links (origin holder target) (parts target ++ rest)
        (directory || (rest.isEmpty && wantsDirectory target)) := by
  rw [chase.eq_def]
  dsimp only
  rw [ends.descend_eq]

theorem is_directory_origin (holder : List Text) (target : Text)
    (inside : root.IsDirectory holder) :
    root.IsDirectory (origin holder target) := by
  unfold origin
  split
  · exact inside.of_prefix List.nil_prefix
  · exact inside

/-- A slot that is reached from a directory is free, and no link stands above it. -/
theorem chase_slot {result : Lookup} {wanted : Bool} {slot : List Text}
    (reached : chase root follow links place names directory = .ok (result, wanted))
    (slotIs : result.slot? = some slot) (inside : root.IsDirectory place) :
    root.IsSlot slot ∧ root.NoLinkTo slot := by
  induction links using Nat.strongRecOn generalizing place names directory with
  | ind links ih =>
      rcases chase_cases reached with ⟨ends, -⟩ | ⟨holder, target, rest, fewer, ends, rfl, later⟩
      · exact ⟨ends.is_slot slotIs, ends.no_link_to slotIs inside⟩
      · exact ih fewer (Nat.lt_succ_self fewer) later
          (is_directory_origin holder target ends.is_directory_of_link)

/-- A chase that ended at a slot finds the file that has been put there. -/
theorem chase_put {result : Lookup} {wanted : Bool} {slot : List Text}
    (reached : chase root follow links place names directory = .ok (result, wanted))
    (slotIs : result.slot? = some slot) (bytes : List Nat) (mode : Nat) :
    chase (FileTree.put (.file bytes mode) slot root) follow links place names directory =
      .ok (.found slot (.file bytes mode), wanted) := by
  induction links using Nat.strongRecOn generalizing place names directory with
  | ind links ih =>
      rcases chase_cases reached with ⟨ends, rfl⟩ | ⟨holder, target, rest, fewer, ends, rfl, later⟩
      · exact chase_found (ends.put slotIs bytes mode)
      · -- Behind a link the way starts in a directory that is there, so no link is lost.
        obtain ⟨free, noLink⟩ := chase_slot later slotIs
          (is_directory_origin holder target ends.is_directory_of_link)
        rw [chase_link (ends.put_link _ free noLink)]
        exact ih fewer (Nat.lt_succ_self fewer) later

end Chasing
end Path

namespace FileSystem

theorem write_slot {system written : FileSystem} {path : Text} {bytes : List Nat}
    (success : system.write path bytes = .ok written) :
    ∃ result slot mode, Path.lookup system true path = .ok (result, false) ∧
      result.slot? = some slot ∧ written = system.put slot (.file bytes mode) := by
  unfold write at success
  cases looked : Path.lookup system true path with
  | error failure =>
      rw [looked] at success
      cases success
  | ok outcome =>
      obtain ⟨result, wanted⟩ := outcome
      rw [looked] at success
      cases result with
      | found place tree =>
          cases tree with
          | file old mode =>
              cases wanted with
              | true => cases success
              | false =>
                  cases success
                  exact ⟨_, place, mode, rfl, rfl, rfl⟩
          | link target => cases success
          | directory content => cases success
      | missing place name =>
          cases wanted with
          | true => cases success
          | false =>
              cases success
              exact ⟨_, place ++ [name], newFileMode, rfl, rfl, rfl⟩
      | link place target rest => cases success

theorem lookup_put {system : FileSystem} {path : Text} {result : Path.Lookup} {wanted : Bool}
    {slot : List Text} (looked : Path.lookup system true path = .ok (result, wanted))
    (slotIs : result.slot? = some slot) (bytes : List Nat) (mode : Nat) :
    Path.lookup (system.put slot (.file bytes mode)) true path =
      .ok (.found slot (.file bytes mode), wanted) := by
  unfold Path.lookup at looked ⊢
  split at looked
  · cases looked
  · rename_i nonempty
    rw [if_neg nonempty]
    split at looked
    · cases looked
    · rename_i short
      rw [if_neg short]
      exact Path.chase_put looked slotIs bytes mode

/-- A text that has been written to a path is the text that the path leads to. -/
theorem read_write {system written : FileSystem} {path text : Text}
    (success : system.write path (Utf8.encode text) = .ok written) :
    written.read path = .ok text := by
  obtain ⟨result, slot, mode, looked, slotIs, rfl⟩ := write_slot success
  have found := lookup_put looked slotIs (Utf8.encode text) mode
  unfold read Path.resolve
  rw [found]
  simp only [Bool.false_eq_true, if_false, Utf8.decode_encode]

end FileSystem
end DockerfileAudit
