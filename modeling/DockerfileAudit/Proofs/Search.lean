import DockerfileAudit.Pattern.Search
import Mathlib.Data.List.Basic

/-!
A search finds a pattern exactly where the pattern matches. What it means to match is said by rules,
one for each way to build a pattern, with the text on both sides in view, since a condition on a
border looks at both. The marks of a search stand for the rest of the pattern that is still to be
matched; one character moves them as the rules ask, and so does a whole text.
-/
set_option autoImplicit false

namespace DockerfileAudit
namespace Pattern

def Border.between (front back : Text) : Border := ⟨front.getLast?, back.head?⟩

/-- The pattern matches `inside` where that stands between `front` and `back`. -/
inductive Regex.Matches : Regex → (front inside back : Text) → Prop where
  | empty (front back : Text) : Matches .empty front [] back
  | set (codes : CodeSet) (front back : Text) (c : Char)
      (member : codes.contains c.toNat = true) : Matches (.set codes) front [c] back
  | look (condition : Look) (front back : Text)
      (holds : condition.holds (Border.between front back) = true) :
      Matches (.look condition) front [] back
  | seq (first second : Regex) (front left right back : Text)
      (before : Matches first front left (right ++ back))
      (after : Matches second (front ++ left) right back) :
      Matches (.seq first second) front (left ++ right) back
  | altLeft (left right : Regex) (front inside back : Text)
      (matched : Matches left front inside back) :
      Matches (.alt left right) front inside back
  | altRight (left right : Regex) (front inside back : Text)
      (matched : Matches right front inside back) : Matches (.alt left right) front inside back
  | starNone (inner : Regex) (front back : Text) : Matches (.star inner) front [] back
  | starMore (inner : Regex) (front left right back : Text)
      (once : Matches inner front left (right ++ back))
      (more : Matches (.star inner) (front ++ left) right back) :
      Matches (.star inner) front (left ++ right) back

namespace Regex

variable {front inside back : Text}

theorem matches_empty : Regex.empty.Matches front inside back ↔ inside = [] := by
  constructor
  · rintro ⟨⟩
    rfl
  · rintro rfl
    exact .empty front back

theorem matches_set (codes : CodeSet) :
    (Regex.set codes).Matches front inside back ↔
      ∃ c, inside = [c] ∧ codes.contains c.toNat = true := by
  constructor
  · rintro ⟨⟩
    exact ⟨_, rfl, by assumption⟩
  · rintro ⟨c, rfl, member⟩
    exact .set codes front back c member

theorem matches_look (condition : Look) :
    (Regex.look condition).Matches front inside back ↔
      inside = [] ∧ condition.holds (Border.between front back) = true := by
  constructor
  · rintro ⟨⟩
    exact ⟨rfl, by assumption⟩
  · rintro ⟨rfl, holds⟩
    exact .look condition front back holds

theorem matches_seq (first second : Regex) :
    (Regex.seq first second).Matches front inside back ↔
      ∃ left right, inside = left ++ right ∧ first.Matches front left (right ++ back) ∧
        second.Matches (front ++ left) right back := by
  constructor
  · rintro ⟨⟩
    exact ⟨_, _, rfl, by assumption, by assumption⟩
  · rintro ⟨left, right, rfl, before, after⟩
    exact .seq first second front left right back before after

theorem matches_alt (left right : Regex) :
    (Regex.alt left right).Matches front inside back ↔
      left.Matches front inside back ∨ right.Matches front inside back := by
  constructor
  · rintro ⟨⟩
    · exact Or.inl (by assumption)
    · exact Or.inr (by assumption)
  · rintro (matched | matched)
    · exact .altLeft left right front inside back matched
    · exact .altRight left right front inside back matched

theorem matches_star_cons (inner : Regex) (c : Char) :
    (Regex.star inner).Matches front (c :: inside) back ↔
      ∃ left right, inside = left ++ right ∧ inner.Matches front (c :: left) (right ++ back) ∧
        (Regex.star inner).Matches (front ++ c :: left) right back := by
  constructor
  · intro matched
    generalize whole : Regex.star inner = regex, filled : c :: inside = text at matched
    induction matched with
    | starNone inner' front back => cases filled
    | starMore inner' front left right back once more _ ih =>
        cases whole
        cases left with
        | nil =>
            rw [List.append_nil] at more ih
            exact ih rfl filled
        | cons d left =>
            rw [List.cons_append, List.cons.injEq] at filled
            obtain ⟨rfl, rfl⟩ := filled
            exact ⟨left, right, rfl, once, more⟩
    | empty front back => cases filled
    | set codes front back d member => cases whole
    | look condition front back holds => cases filled
    | seq first second front left right back before after => cases whole
    | altLeft left right front inside back matched => cases whole
    | altRight left right front inside back matched => cases whole
  · rintro ⟨left, right, rfl, once, more⟩
    exact .starMore inner front (c :: left) right back once more

theorem passes_iff (regex : Regex) (front back : Text) :
    regex.passes (Border.between front back) = true ↔ regex.Matches front [] back := by
  induction regex generalizing front back with
  | empty => simp [passes, matches_empty]
  | set codes => simp [passes, matches_set]
  | look condition => simp [passes, matches_look]
  | seq first second firstIH secondIH =>
      rw [passes, Bool.and_eq_true, firstIH, secondIH, matches_seq]
      constructor
      · rintro ⟨before, after⟩
        exact ⟨[], [], rfl, before, by rwa [List.append_nil]⟩
      · rintro ⟨left, right, nothing, before, after⟩
        obtain ⟨rfl, rfl⟩ := List.append_eq_nil_iff.mp nothing.symm
        rw [List.append_nil] at after
        exact ⟨before, after⟩
  | alt left right leftIH rightIH => rw [passes, Bool.or_eq_true, leftIH, rightIH, matches_alt]
  | star inner ih => simp [passes, Matches.starNone]

end Regex

namespace Marked

def plain : Marked → Regex
  | .idle regex => regex
  | .hit codes => .set codes
  | .seq first second => .seq first.plain second.plain
  | .alt left right => .alt left.plain right.plain
  | .star inner => .star inner.plain

/-- What remains to be matched behind some mark matches `inside`. -/
def Finishes : Marked → (front inside back : Text) → Prop
  | .idle _, _, _, _ => False
  | .hit _, _, inside, _ => inside = []
  | .seq first second, front, inside, back =>
      second.Finishes front inside back ∨
        ∃ left right, inside = left ++ right ∧ first.Finishes front left (right ++ back) ∧
          second.plain.Matches (front ++ left) right back
  | .alt left right, front, inside, back =>
      left.Finishes front inside back ∨ right.Finishes front inside back
  | .star inner, front, inside, back =>
      ∃ left right, inside = left ++ right ∧ inner.Finishes front left (right ++ back) ∧
        (Regex.star inner.plain).Matches (front ++ left) right back

theorem plain_mk_seq (first second : Marked) :
    (mkSeq first second).plain = .seq first.plain second.plain := by
  cases first <;> cases second <;> rfl

theorem plain_mk_alt (left right : Marked) :
    (mkAlt left right).plain = .alt left.plain right.plain := by
  cases left <;> cases right <;> rfl

theorem plain_mk_star (inner : Marked) : (mkStar inner).plain = .star inner.plain := by
  cases inner <;> rfl

theorem finishes_mk_seq (first second : Marked) :
    (mkSeq first second).Finishes = (Marked.seq first second).Finishes := by
  fun_cases mkSeq first second with
  | case1 first second =>
      funext front inside back
      simp [Finishes]
  | case2 first second marked => rfl

theorem finishes_mk_alt (left right : Marked) :
    (mkAlt left right).Finishes = (Marked.alt left right).Finishes := by
  fun_cases mkAlt left right with
  | case1 left right =>
      funext front inside back
      simp [Finishes]
  | case2 left right marked => rfl

theorem finishes_mk_star (inner : Marked) :
    (mkStar inner).Finishes = (Marked.star inner).Finishes := by
  fun_cases mkStar inner with
  | case1 inner =>
      funext front inside back
      simp [Finishes]
  | case2 inner marked => rfl

theorem passes_eq_plain (border : Border) (marked : Marked) :
    marked.passes border = marked.plain.passes border := by
  induction marked with
  | idle regex => rfl
  | hit codes => rfl
  | seq first second firstIH secondIH => rw [passes, firstIH, secondIH, plain, Regex.passes]
  | alt left right leftIH rightIH => rw [passes, leftIH, rightIH, plain, Regex.passes]
  | star inner ih => rfl

theorem passes_iff (marked : Marked) (front back : Text) :
    marked.passes (Border.between front back) = true ↔ marked.plain.Matches front [] back := by
  rw [passes_eq_plain, Regex.passes_iff]

theorem plain_enter (border : Border) (c : Char) (regex : Regex) :
    (enter border c regex).plain = regex := by
  induction regex with
  | empty => rfl
  | set codes =>
      rw [enter]
      split <;> rfl
  | look condition => rfl
  | seq first second firstIH secondIH =>
      rw [enter, plain_mk_seq, firstIH]
      split
      · rw [secondIH]
      · rfl
  | alt left right leftIH rightIH => rw [enter, plain_mk_alt, leftIH, rightIH]
  | star inner ih => rw [enter, plain_mk_star, ih]

theorem plain_advance (border : Border) (c : Char) (entered : Bool) (marked : Marked) :
    (advance border c entered marked).plain = marked.plain := by
  induction marked generalizing entered with
  | idle regex =>
      rw [advance]
      split
      · exact plain_enter border c regex
      · rfl
  | hit codes =>
      rw [advance]
      split <;> rfl
  | seq first second firstIH secondIH => rw [advance, plain_mk_seq, firstIH, secondIH, plain]
  | alt left right leftIH rightIH => rw [advance, plain_mk_alt, leftIH, rightIH, plain]
  | star inner ih => rw [advance, plain_mk_star, ih, plain]

theorem at_end_iff (marked : Marked) (front back : Text) :
    marked.atEnd (Border.between front back) = true ↔ marked.Finishes front [] back := by
  induction marked generalizing front back with
  | idle regex => simp [atEnd, Finishes]
  | hit codes => simp [atEnd, Finishes]
  | seq first second firstIH secondIH =>
      rw [atEnd, Bool.or_eq_true, Bool.and_eq_true, firstIH, secondIH, passes_iff, Finishes]
      apply or_congr_right
      constructor
      · rintro ⟨before, after⟩
        exact ⟨[], [], rfl, before, by rwa [List.append_nil]⟩
      · rintro ⟨left, right, nothing, before, after⟩
        obtain ⟨rfl, rfl⟩ := List.append_eq_nil_iff.mp nothing.symm
        rw [List.append_nil] at after
        exact ⟨before, after⟩
  | alt left right leftIH rightIH => rw [atEnd, Bool.or_eq_true, leftIH, rightIH, Finishes]
  | star inner ih =>
      rw [atEnd, ih, Finishes]
      constructor
      · intro before
        exact ⟨[], [], rfl, before, .starNone _ _ _⟩
      · rintro ⟨left, right, nothing, before, -⟩
        obtain ⟨rfl, rfl⟩ := List.append_eq_nil_iff.mp nothing.symm
        exact before

theorem exists_cut_cons (c : Char) (inside : Text) (Fits : Text → Text → Prop) :
    (∃ left right, c :: inside = left ++ right ∧ Fits left right) ↔
      Fits [] (c :: inside) ∨ ∃ left right, inside = left ++ right ∧ Fits (c :: left) right := by
  constructor
  · rintro ⟨left, right, cut, fits⟩
    rcases List.cons_eq_append_iff.mp cut with ⟨rfl, rfl⟩ | ⟨rest, rfl, rfl⟩
    · exact Or.inl fits
    · exact Or.inr ⟨rest, right, rfl, fits⟩
  · rintro (fits | ⟨left, right, rfl, fits⟩)
    · exact ⟨[], c :: inside, rfl, fits⟩
    · exact ⟨c :: left, right, rfl, fits⟩

/-- The marks of a pattern that is entered finish the matches that start with the character. -/
theorem finishes_enter (regex : Regex) (front : Text) (c : Char) (inside back : Text) :
    (enter ⟨front.getLast?, some c⟩ c regex).Finishes (front ++ [c]) inside back ↔
      regex.Matches front (c :: inside) back := by
  induction regex generalizing front inside back with
  | empty => simp [enter, Finishes, Regex.matches_empty]
  | set codes =>
      rw [enter, Regex.matches_set]
      split
      · rename_i member
        simp [Finishes, member]
      · rename_i missing
        simp only [Finishes, false_iff]
        rintro ⟨d, same, member⟩
        rw [List.cons.injEq] at same
        exact missing (same.1 ▸ member)
  | look condition => simp [enter, Finishes, Regex.matches_look]
  | seq first second firstIH secondIH =>
      have border : (⟨front.getLast?, some c⟩ : Border) =
        Border.between front (c :: inside ++ back) := rfl
      rw [enter, finishes_mk_seq, Finishes, Regex.matches_seq, exists_cut_cons]
      simp only [List.append_nil]
      apply or_congr
      · by_cases passed : first.passes ⟨front.getLast?, some c⟩ = true
        · have nothing : first.Matches front [] (c :: inside ++ back) := by
            rw [← Regex.passes_iff, ← border]
            exact passed
          rw [if_pos passed, secondIH]
          exact (and_iff_right nothing).symm
        · rw [if_neg passed]
          rw [border, Regex.passes_iff] at passed
          exact ⟨False.elim, fun both => passed both.1⟩
      · have kept : ∀ right, (if first.passes ⟨front.getLast?, some c⟩ then
            enter ⟨front.getLast?, some c⟩ c second else .idle second).plain.Matches right =
              second.Matches right := by
          intro right
          split
          · rw [plain_enter]
          · rfl
        simp only [firstIH, kept, List.append_assoc, List.singleton_append]
  | alt left right leftIH rightIH =>
      rw [enter, finishes_mk_alt, Finishes, leftIH, rightIH, Regex.matches_alt]
  | star inner ih =>
      rw [enter, finishes_mk_star, Finishes, Regex.matches_star_cons]
      simp only [ih, plain_enter, List.append_assoc, List.singleton_append]

/-- One character: the marks behind it finish what the marks before it finish with the character,
and what the pattern matches from here if it is entered. -/
theorem finishes_advance (marked : Marked) (entered : Bool) (front : Text) (c : Char)
    (inside back : Text) :
    (advance ⟨front.getLast?, some c⟩ c entered marked).Finishes (front ++ [c]) inside back ↔
      marked.Finishes front (c :: inside) back ∨
        (entered = true ∧ marked.plain.Matches front (c :: inside) back) := by
  induction marked generalizing entered front inside back with
  | idle regex =>
      rw [advance, Finishes, plain, false_or]
      split
      · rename_i here
        rw [finishes_enter]
        exact (and_iff_right here).symm
      · rename_i elsewhere
        exact ⟨False.elim, fun both => elsewhere both.1⟩
  | hit codes =>
      rw [advance, plain, Regex.matches_set]
      split
      · rename_i both
        rw [Bool.and_eq_true] at both
        simp [Finishes, both.1, both.2]
      · rename_i missing
        simp only [Finishes, reduceCtorEq, false_or, false_iff]
        rintro ⟨here, d, same, member⟩
        rw [List.cons.injEq] at same
        exact missing (by rw [here, same.1, member]; rfl)
  | seq first second firstIH secondIH =>
      have border : (⟨front.getLast?, some c⟩ : Border) =
        Border.between front (c :: inside ++ back) := rfl
      have atEnd_first : first.atEnd ⟨front.getLast?, some c⟩ = true ↔
          first.Finishes front [] (c :: inside ++ back) := by rw [border, at_end_iff]
      have passes_first : first.passes ⟨front.getLast?, some c⟩ = true ↔
          first.plain.Matches front [] (c :: inside ++ back) := by rw [border, passes_iff]
      rw [advance, finishes_mk_seq, Finishes, Finishes, plain, Regex.matches_seq, exists_cut_cons,
        exists_cut_cons]
      simp only [secondIH, firstIH, plain_advance, Bool.or_eq_true, Bool.and_eq_true, atEnd_first,
        passes_first, List.append_nil, List.append_assoc, List.singleton_append]
      constructor
      · rintro ((going | ⟨ended | ⟨here, passed⟩, after⟩) |
          ⟨left, right, cut, going | ⟨here, before⟩, after⟩)
        · exact Or.inl (Or.inl going)
        · exact Or.inl (Or.inr (Or.inl ⟨ended, after⟩))
        · exact Or.inr ⟨here, Or.inl ⟨passed, after⟩⟩
        · exact Or.inl (Or.inr (Or.inr ⟨left, right, cut, going, after⟩))
        · exact Or.inr ⟨here, Or.inr ⟨left, right, cut, before, after⟩⟩
      · rintro ((going | ⟨ended, after⟩ | ⟨left, right, cut, going, after⟩) |
          ⟨here, ⟨passed, after⟩ | ⟨left, right, cut, before, after⟩⟩)
        · exact Or.inl (Or.inl going)
        · exact Or.inl (Or.inr ⟨Or.inl ended, after⟩)
        · exact Or.inr ⟨left, right, cut, Or.inl going, after⟩
        · exact Or.inl (Or.inr ⟨Or.inr ⟨here, passed⟩, after⟩)
        · exact Or.inr ⟨left, right, cut, Or.inr ⟨here, before⟩, after⟩
  | alt left right leftIH rightIH =>
      rw [advance, finishes_mk_alt, Finishes, Finishes, leftIH, rightIH, plain, Regex.matches_alt]
      tauto
  | star inner ih =>
      have border : (⟨front.getLast?, some c⟩ : Border) =
        Border.between front (c :: inside ++ back) := rfl
      have atEnd_inner : inner.atEnd ⟨front.getLast?, some c⟩ = true ↔
          inner.Finishes front [] (c :: inside ++ back) := by rw [border, at_end_iff]
      rw [advance, finishes_mk_star, Finishes, Finishes, exists_cut_cons, plain]
      simp only [ih, plain_advance, Bool.or_eq_true, atEnd_inner, Regex.matches_star_cons,
        List.append_nil, List.append_assoc, List.singleton_append]
      constructor
      · rintro ⟨left, right, cut, going | ⟨here | ended, once⟩, more⟩
        · exact Or.inl (Or.inr ⟨left, right, cut, going, more⟩)
        · exact Or.inr ⟨here, left, right, cut, once, more⟩
        · exact Or.inl (Or.inl ⟨ended, left, right, cut, once, more⟩)
      · rintro ((⟨ended, left, right, cut, once, more⟩ | ⟨left, right, cut, going, more⟩) |
          ⟨here, left, right, cut, once, more⟩)
        · exact ⟨left, right, cut, Or.inr ⟨Or.inr ended, once⟩, more⟩
        · exact ⟨left, right, cut, Or.inl going, more⟩
        · exact ⟨left, right, cut, Or.inr ⟨Or.inl here, once⟩, more⟩

theorem succeeds_iff (marked : Marked) (front back : Text) :
    marked.succeeds (Border.between front back) = true ↔
      marked.Finishes front [] back ∨ marked.plain.Matches front [] back := by
  rw [succeeds, Bool.or_eq_true, at_end_iff, passes_iff]

/-- A search succeeds if a mark is finished by the text ahead, or the pattern matches somewhere in
it. -/
theorem search_iff (marked : Marked) (front text : Text) :
    search front.getLast? marked text = true ↔
      (∃ inside back, text = inside ++ back ∧ marked.Finishes front inside back) ∨
        ∃ skipped inside back, text = skipped ++ (inside ++ back) ∧
          marked.plain.Matches (front ++ skipped) inside back := by
  induction text generalizing front marked with
  | nil =>
      have here := succeeds_iff marked front []
      rw [search]
      refine here.trans ?_
      constructor
      · rintro (going | matched)
        · exact Or.inl ⟨[], [], rfl, going⟩
        · exact Or.inr ⟨[], [], [], rfl, by rwa [List.append_nil]⟩
      · rintro (⟨inside, back, nothing, going⟩ | ⟨skipped, inside, back, nothing, matched⟩)
        · obtain ⟨rfl, rfl⟩ := List.append_eq_nil_iff.mp nothing.symm
          exact Or.inl going
        · obtain ⟨rfl, rest⟩ := List.append_eq_nil_iff.mp nothing.symm
          obtain ⟨rfl, rfl⟩ := List.append_eq_nil_iff.mp rest
          rw [List.append_nil] at matched
          exact Or.inr matched
  | cons c rest ih =>
      have here : marked.succeeds ⟨front.getLast?, some c⟩ = true ↔ _ :=
        succeeds_iff marked front (c :: rest)
      have later := ih (advance ⟨front.getLast?, some c⟩ c true marked) (front ++ [c])
      rw [List.getLast?_concat] at later
      rw [search, Bool.or_eq_true, here, later]
      simp only [finishes_advance, plain_advance, true_and, List.append_assoc,
        List.singleton_append]
      constructor
      · rintro ((going | matched) | ⟨inside, back, rfl, going | matched⟩ |
          ⟨skipped, inside, back, rfl, matched⟩)
        · exact Or.inl ⟨[], c :: rest, rfl, going⟩
        · exact Or.inr ⟨[], [], c :: rest, rfl, by rwa [List.append_nil]⟩
        · exact Or.inl ⟨c :: inside, back, rfl, going⟩
        · exact Or.inr ⟨[], c :: inside, back, rfl, by rwa [List.append_nil]⟩
        · exact Or.inr ⟨c :: skipped, inside, back, rfl, matched⟩
      · rintro (⟨inside, back, cut, going⟩ | ⟨skipped, inside, back, cut, matched⟩)
        · rcases List.cons_eq_append_iff.mp cut with ⟨rfl, rfl⟩ | ⟨inside, rfl, rfl⟩
          · exact Or.inl (Or.inl going)
          · exact Or.inr (Or.inl ⟨inside, back, rfl, Or.inl going⟩)
        · rcases List.cons_eq_append_iff.mp cut with ⟨rfl, further⟩ | ⟨skipped, rfl, rfl⟩
          · rw [List.append_nil] at matched
            rcases List.append_eq_cons_iff.mp further with ⟨rfl, rfl⟩ | ⟨inside, rfl, rfl⟩
            · exact Or.inl (Or.inr matched)
            · exact Or.inr (Or.inl ⟨inside, back, rfl, Or.inr matched⟩)
          · exact Or.inr (Or.inr ⟨skipped, inside, back, rfl, matched⟩)

end Marked

/-- A pattern is in a text exactly if it matches some part of it where that part stands. -/
theorem Regex.is_in_iff (regex : Regex) (text : Text) :
    regex.isIn text = true ↔
      ∃ front inside back, text = front ++ (inside ++ back) ∧ regex.Matches front inside back := by
  have whole := Marked.search_iff (.idle regex) [] text
  simpa [Regex.isIn, Marked.Finishes, Marked.plain] using whole

end Pattern
end DockerfileAudit
