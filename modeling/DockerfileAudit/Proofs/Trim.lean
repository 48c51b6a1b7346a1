import DockerfileAudit.Text.CodeSet
import Mathlib.Data.List.DropRight
import Mathlib.Data.List.TakeWhile

/-!
What trimming and cutting leave of a text. The readers look at texts only through these functions,
so the lemmas speak of ends, first characters and fields and never of positions.
-/
set_option autoImplicit false

namespace DockerfileAudit
namespace Text

theorem before_eq_some_iff (last : Char) (text head : Text) :
    before? last text = some head ↔ text = head ++ [last] := by
  unfold before?
  constructor
  · intro found
    split at found
    · simp at found
    · rename_i c rest reversed
      split at found
      · rename_i same
        have whole : text = rest.reverse ++ [c] := by
          have turned := congrArg List.reverse reversed
          simpa using turned
        rw [whole, same, Option.some.inj found]
      · simp at found
  · intro whole
    simp [whole]

theorem before_eq_none_iff (last : Char) (text : Text) :
    before? last text = none ↔ text.getLast? ≠ some last := by
  constructor
  · intro missing ends
    obtain ⟨head, whole⟩ := List.getLast?_eq_some_iff.mp ends
    rw [(before_eq_some_iff last text head).mpr whole] at missing
    simp at missing
  · intro differs
    cases found : before? last text with
    | none => rfl
    | some head =>
        rw [before_eq_some_iff] at found
        exact absurd (by simp [found]) differs

theorem after_eq_some_iff (head text rest : Text) :
    after? head text = some rest ↔ text = head ++ rest := by
  induction head generalizing text with
  | nil => simp [after?, eq_comm]
  | cons h head ih =>
      cases text with
      | nil => simp [after?]
      | cons c text =>
          by_cases same : h = c
          · subst same
            simp [after?, ih]
          · have other : ¬c = h := fun equal => same equal.symm
            simp [after?, same, other]

theorem starts_with_iff (text head : Text) :
    startsWith text head = true ↔ ∃ rest, text = head ++ rest := by
  unfold startsWith
  rw [Option.isSome_iff_exists]
  simp only [after_eq_some_iff]

theorem cut_at_eq_some_iff (p : Char → Bool) (text before after : Text) :
    cutAt p text = some (before, after) ↔
      ∃ c, p c = true ∧ (∀ d ∈ before, p d = false) ∧ text = before ++ c :: after := by
  induction text generalizing before with
  | nil => simp [cutAt]
  | cons c rest ih =>
      by_cases hit : p c = true
      · simp only [cutAt, hit, if_true, Option.some.injEq, Prod.mk.injEq]
        constructor
        · rintro ⟨rfl, rfl⟩
          exact ⟨c, hit, by simp, rfl⟩
        · rintro ⟨d, _, clean, whole⟩
          cases before with
          | nil =>
              simp only [List.nil_append, List.cons.injEq] at whole
              exact ⟨rfl, whole.2⟩
          | cons first before =>
              simp only [List.cons_append, List.cons.injEq] at whole
              have missed := clean first (by simp)
              rw [← whole.1, hit] at missed
              simp at missed
      · have miss : p c = false := by simpa using hit
        simp only [cutAt, miss, Bool.false_eq_true, if_false, Option.map_eq_some_iff,
          Prod.exists, Prod.mk.injEq]
        constructor
        · rintro ⟨front, back, cut, rfl, rfl⟩
          obtain ⟨d, found, clean, whole⟩ := (ih front).mp cut
          exact ⟨d, found, List.forall_mem_cons.mpr ⟨miss, clean⟩, by simp [whole]⟩
        · rintro ⟨d, found, clean, whole⟩
          cases before with
          | nil =>
              simp only [List.nil_append, List.cons.injEq] at whole
              rw [← whole.1, miss] at found
              simp at found
          | cons first before =>
              simp only [List.cons_append, List.cons.injEq] at whole
              obtain ⟨rfl, same⟩ := whole
              refine ⟨before, after, (ih before).mpr ⟨d, found, ?_, same⟩, rfl, rfl⟩
              intro e member
              exact clean e (List.mem_cons_of_mem _ member)

theorem cut_at_eq_none_iff (p : Char → Bool) (text : Text) :
    cutAt p text = none ↔ ∀ c ∈ text, p c = false := by
  induction text with
  | nil => simp [cutAt]
  | cons c rest ih =>
      by_cases hit : p c = true
      · simp [cutAt, hit]
      · have miss : p c = false := by simpa using hit
        simp [cutAt, miss, ih]

theorem trim_end_prefix (text : Text) : ∃ blanks, text = trimEnd text ++ blanks := by
  obtain ⟨dropped, whole⟩ := List.dropWhile_suffix (l := text.reverse) isBlank
  refine ⟨dropped.reverse, ?_⟩
  have turned := congrArg List.reverse whole
  rw [List.reverse_append, List.reverse_reverse] at turned
  exact turned.symm

theorem trim_start_starts_unblank (text : Text) (c : Char) (rest : Text)
    (starts : trimStart text = c :: rest) : isBlank c = false := by
  have kept := List.head?_dropWhile_not isBlank text
  unfold trimStart at starts
  rw [starts] at kept
  simpa using kept

theorem trim_starts_unblank (text : Text) (c : Char) (rest : Text)
    (starts : trim text = c :: rest) : isBlank c = false := by
  obtain ⟨blanks, whole⟩ := trim_end_prefix (trimStart text)
  have front : trimStart text = c :: (rest ++ blanks) := by
    rw [whole]
    unfold trim at starts
    rw [starts]
    rfl
  exact trim_start_starts_unblank text c _ front

theorem trim_start_trim (text : Text) : trimStart (trim text) = trim text := by
  cases trimmed : trim text with
  | nil => rfl
  | cons c rest =>
      have unblank := trim_starts_unblank text c rest trimmed
      rw [trimStart, List.dropWhile_cons_of_neg (by simp [unblank])]

theorem trim_end_eq_nil_iff (text : Text) :
    trimEnd text = [] ↔ ∀ c ∈ text, isBlank c = true := by
  simp [trimEnd, List.dropWhile_eq_nil_iff]

theorem trim_eq_nil_iff (text : Text) : trim text = [] ↔ ∀ c ∈ text, isBlank c = true := by
  constructor
  · intro blank
    cases front : trimStart text with
    | nil =>
        unfold trimStart at front
        exact List.dropWhile_eq_nil_iff.mp front
    | cons c rest =>
        unfold trim at blank
        rw [front, trim_end_eq_nil_iff] at blank
        have hit := blank c (by simp)
        rw [trim_start_starts_unblank text c rest front] at hit
        simp at hit
  · intro blank
    have front : trimStart text = [] := List.dropWhile_eq_nil_iff.mpr blank
    simp [trim, front, trimEnd]

theorem trim_end_eq_rdrop_while (text : Text) : trimEnd text = text.rdropWhile isBlank := rfl

theorem exists_trim (text : Text) :
    ∃ before after, (∀ c ∈ before, isBlank c = true) ∧ (∀ c ∈ after, isBlank c = true) ∧
      text = before ++ (trim text ++ after) := by
  refine ⟨text.takeWhile isBlank, (trimStart text).rtakeWhile isBlank, ?_, ?_, ?_⟩
  · intro c member
    exact List.mem_takeWhile_imp member
  · intro c member
    exact List.mem_rtakeWhile_imp member
  · rw [trim, trim_end_eq_rdrop_while, List.rdropWhile_append_rtakeWhile, trimStart,
      List.takeWhile_append_dropWhile]

theorem exists_trim_of_ends (text : Text) (ends : ∀ c ∈ text.getLast?, isBlank c = false) :
    ∃ before, (∀ c ∈ before, isBlank c = true) ∧ text = before ++ trim text := by
  obtain ⟨before, after, frontBlank, backBlank, whole⟩ := exists_trim text
  have none : after = [] := by
    apply List.eq_nil_iff_forall_not_mem.mpr
    intro c member
    have nonempty := List.ne_nil_of_mem member
    have last : text.getLast? = some (after.getLast nonempty) := by
      rw [whole, ← List.append_assoc, List.getLast?_append_of_ne_nil _ nonempty,
        List.getLast?_eq_some_getLast nonempty]
    have blank := backBlank _ (List.getLast_mem nonempty)
    rw [ends _ last] at blank
    simp at blank
  refine ⟨before, frontBlank, ?_⟩
  rw [none, List.append_nil] at whole
  exact whole

theorem exists_trim_of_starts (text : Text) (starts : ∀ c ∈ text.head?, isBlank c = false) :
    ∃ after, (∀ c ∈ after, isBlank c = true) ∧ text = trim text ++ after := by
  obtain ⟨before, after, frontBlank, backBlank, whole⟩ := exists_trim text
  refine ⟨after, backBlank, ?_⟩
  cases before with
  | nil => exact whole
  | cons c rest =>
      have blank := frontBlank c (by simp)
      rw [starts c (by rw [whole]; rfl)] at blank
      simp at blank

theorem trim_end_append (front back : Text) (nonblank : trimEnd back ≠ []) :
    trimEnd (front ++ back) = front ++ trimEnd back := by
  have stops : (back.reverse.dropWhile isBlank).isEmpty = false := by
    rw [List.isEmpty_eq_false_iff]
    intro nothing
    apply nonblank
    rw [trimEnd, nothing, List.reverse_nil]
  unfold trimEnd
  rw [List.reverse_append, List.dropWhile_append, stops]
  simp

theorem trim_blanks_append (blanks text : Text) (blank : ∀ c ∈ blanks, isBlank c = true) :
    trim (blanks ++ text) = trim text := by
  unfold trim trimStart
  rw [List.dropWhile_append_of_pos blank]

theorem trim_end_append_blanks (text blanks : Text) (blank : ∀ c ∈ blanks, isBlank c = true) :
    trimEnd (text ++ blanks) = trimEnd text := by
  unfold trimEnd
  rw [List.reverse_append, List.dropWhile_append_of_pos (by simpa using blank)]

theorem trim_append_blanks (text blanks : Text) (blank : ∀ c ∈ blanks, isBlank c = true) :
    trim (text ++ blanks) = trim text := by
  by_cases nothing : ∀ c ∈ text, isBlank c = true
  · have both : ∀ c ∈ text ++ blanks, isBlank c = true := by
      intro c member
      rcases List.mem_append.mp member with inside | behind
      · exact nothing c inside
      · exact blank c behind
    rw [(trim_eq_nil_iff text).mpr nothing, (trim_eq_nil_iff _).mpr both]
  · have some : (text.dropWhile isBlank).isEmpty = false := by
      rw [Bool.eq_false_iff, ne_eq, List.isEmpty_iff, List.dropWhile_eq_nil_iff]
      exact nothing
    have front : trimStart (text ++ blanks) = trimStart text ++ blanks := by
      unfold trimStart
      rw [List.dropWhile_append, some]
      rfl
    unfold trim
    rw [front, trim_end_append_blanks _ _ blank]

/-- A text with a character at either end that is not blank. -/
structure Tight (text : Text) : Prop where
  starts : ∃ c ∈ text.head?, isBlank c = false
  ends : ∃ c ∈ text.getLast?, isBlank c = false

theorem Tight.trim_start_eq {text : Text} (tight : text.Tight) : trimStart text = text := by
  obtain ⟨c, first, unblank⟩ := tight.starts
  cases text with
  | nil => simp at first
  | cons d rest =>
      simp only [List.head?_cons, Option.mem_def, Option.some.injEq] at first
      rw [trimStart, List.dropWhile_cons_of_neg (by simp [first, unblank])]

theorem Tight.trim_eq {text : Text} (tight : text.Tight) : trim text = text := by
  obtain ⟨c, last, unblank⟩ := tight.ends
  obtain ⟨front, rfl⟩ := List.getLast?_eq_some_iff.mp last
  rw [trim, tight.trim_start_eq, trimEnd, List.reverse_append, List.reverse_singleton,
    List.singleton_append, List.dropWhile_cons_of_neg (by simp [unblank]), List.reverse_cons,
    List.reverse_reverse]

theorem tight_trim (text : Text) (nonblank : trim text ≠ []) : (trim text).Tight := by
  constructor
  · obtain ⟨c, rest, trimmed⟩ := List.exists_cons_of_ne_nil nonblank
    exact ⟨c, by simp [trimmed], trim_starts_unblank text c rest trimmed⟩
  · have last := List.rdropWhile_last_not isBlank (trimStart text) nonblank
    exact ⟨(trim text).getLast nonblank, List.getLast?_eq_some_getLast nonblank,
      Bool.eq_false_iff.mpr last⟩

theorem Tight.ne_nil {text : Text} (tight : text.Tight) : text ≠ [] := by
  rintro rfl
  obtain ⟨c, first, -⟩ := tight.starts
  cases first

theorem trim_between (before text after : Text) (tight : text.Tight)
    (front : ∀ c ∈ before, isBlank c = true) (back : ∀ c ∈ after, isBlank c = true) :
    trim (before ++ (text ++ after)) = text := by
  rw [trim_blanks_append _ _ front, trim_append_blanks _ _ back, tight.trim_eq]

theorem fields_ne_nil (p : Char → Bool) (text : Text) : fields p text ≠ [] := by
  cases text with
  | nil => simp [fields]
  | cons c rest =>
      rw [fields]
      split
      · simp
      · split <;> simp

theorem fields_append (p : Char → Bool) (left right : Text) (c : Char) (cuts : p c = true) :
    fields p (left ++ c :: right) = fields p left ++ fields p right := by
  induction left with
  | nil => simp [fields, cuts]
  | cons d rest ih =>
      rw [List.cons_append, fields, fields, ih]
      split
      · rfl
      · cases split : fields p rest with
        | nil => exact absurd split (fields_ne_nil p rest)
        | cons first others => rfl

theorem fields_of_uncut (p : Char → Bool) (text : Text) (uncut : ∀ c ∈ text, p c = false) :
    fields p text = [text] := by
  induction text with
  | nil => rfl
  | cons c rest ih =>
      obtain ⟨here, later⟩ := List.forall_mem_cons.mp uncut
      rw [fields, if_neg (by simp [here]), ih later]

theorem fields_cons_uncut (p : Char → Bool) (c : Char) (rest first : Text) (others : List Text)
    (uncut : p c = false) (split : fields p rest = first :: others) :
    fields p (c :: rest) = (c :: first) :: others := by
  rw [fields, if_neg (by simp [uncut]), split]

theorem fields_append_uncut (p : Char → Bool) (front rest first : Text) (others : List Text)
    (uncut : ∀ c ∈ front, p c = false) (split : fields p rest = first :: others) :
    fields p (front ++ rest) = (front ++ first) :: others := by
  induction front with
  | nil => exact split
  | cons c front ih =>
      obtain ⟨here, later⟩ := List.forall_mem_cons.mp uncut
      exact fields_cons_uncut p c _ _ others here (ih later)

/-- A field reaches from a cut or an end of the text to the next one. -/
theorem mem_fields_iff (p : Char → Bool) (text field : Text) :
    field ∈ fields p text ↔ ∃ before after, text = before ++ (field ++ after) ∧
      (∀ c ∈ before.getLast?, p c = true) ∧ (∀ c ∈ after.head?, p c = true) ∧
      ∀ c ∈ field, p c = false := by
  constructor
  · intro member
    induction size : text.length using Nat.strong_induction_on generalizing text with
    | _ bound ih =>
        cases cut : cutAt p text with
        | none =>
            have uncut := (cut_at_eq_none_iff p text).mp cut
            rw [fields_of_uncut p text uncut] at member
            obtain rfl := List.mem_singleton.mp member
            exact ⟨[], [], by simp, by simp, by simp, uncut⟩
        | some parts =>
            obtain ⟨front, back⟩ := parts
            obtain ⟨c, cuts, uncut, rfl⟩ := (cut_at_eq_some_iff p text front back).mp cut
            rw [fields_append p front back c cuts, fields_of_uncut p front uncut] at member
            rcases List.mem_cons.mp member with rfl | later
            · exact ⟨[], c :: back, by simp, by simp, by simpa using cuts, uncut⟩
            · have shorter : back.length < bound := by
                rw [← size, List.length_append, List.length_cons]
                omega
              obtain ⟨before, after, rfl, starts, ends, whole⟩ := ih _ shorter back later rfl
              refine ⟨front ++ c :: before, after, by simp, ?_, ends, whole⟩
              cases before with
              | nil => simpa using cuts
              | cons d rest => simpa using starts
  · rintro ⟨before, after, rfl, starts, ends, whole⟩
    have here : field ∈ fields p (field ++ after) := by
      cases after with
      | nil => simp [fields_of_uncut p field whole]
      | cons c rest =>
          rw [fields_append p field rest c (ends c rfl), fields_of_uncut p field whole]
          simp
    rcases List.eq_nil_or_concat before with rfl | ⟨front, c, rfl⟩
    · exact here
    · have cutBefore : front.concat c ++ (field ++ after) = front ++ c :: (field ++ after) := by simp
      rw [cutBefore, fields_append p front _ c (starts c (by simp))]
      exact List.mem_append_right _ here

end Text
end DockerfileAudit
