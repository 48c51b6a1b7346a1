import DockerfileAudit.CommandLine.Arguments
import DockerfileAudit.Proofs.Trim
import Mathlib.Data.List.Forall2
import Mathlib.Data.List.Nodup

/-!
What arguments say. Valid arguments are options one after the other, each given once, and the record
that they are read as holds what these say. An option whose value stands apart is complete only when
the next one begins, so the invariant of the reader keeps the arguments of an option that is still
open apart from those of the options before it.
-/
set_option autoImplicit false

namespace DockerfileAudit
namespace CommandLine

def Switch.long : Switch → Text
  | .value .level => "level".toList
  | .value .trusted => "trusted-base-images".toList
  | .value .packages => "disallowed-packages".toList
  | .value .secrets => "secret-patterns".toList
  | .value .directory => "directory".toList
  | .value .pattern => "dockerfile-pattern".toList
  | .value .format => "format".toList
  | .value .out => "out".toList
  | .failOnViolation => "fail-on-violation".toList
  | .help => "help".toList
  | .version => "version".toList

def Switch.letter? : Switch → Option Char
  | .value .trusted => some 'b'
  | .value .packages => some 'p'
  | .value .secrets => some 's'
  | .value .directory => some 'd'
  | .value .pattern => some 'f'
  | .help => some 'h'
  | .version => some 'V'
  | _ => none

def failName : Text := "fail-on-violation".toList

def failArgument : Text := "--fail-on-violation".toList

theorem fail_argument_eq : failArgument = '-' :: '-' :: failName := by decide

inductive Switch.Names (switch : Switch) : Text → Prop
  | long : Names switch ('-' :: '-' :: switch.long)
  | short {letter : Char} (known : switch.letter? = some letter) : Names switch ['-', letter]

inductive Entry where
  | value (name : Name) (value : Text)
  | failOnViolation
deriving DecidableEq

def Entry.switch : Entry → Switch
  | .value name _ => .value name
  | .failOnViolation => .failOnViolation

/-- A value with an argument of its own, which must not look like an option. -/
def StandsApart (value : Text) : Prop := value = ['-'] ∨ ∀ c ∈ value.head?, c ≠ '-'

inductive Entry.Writes : Entry → List Text → Prop
  | apart {name : Name} {opener value : Text} (names : (Switch.value name).Names opener)
      (apart : StandsApart value) : Writes (.value name value) [opener, value]
  | long {name : Name} {value : Text} :
      Writes (.value name value) ['-' :: '-' :: ((Switch.value name).long ++ '=' :: value)]
  | equals {name : Name} {letter : Char} {value : Text}
      (known : (Switch.value name).letter? = some letter) :
      Writes (.value name value) ['-' :: letter :: '=' :: value]
  | joined {name : Name} {letter : Char} {value : Text}
      (known : (Switch.value name).letter? = some letter) (nonempty : value ≠ [])
      (noSign : ∀ c ∈ value.head?, c ≠ '=') : Writes (.value name value) ['-' :: letter :: value]
  | failOnViolation : Writes .failOnViolation [failArgument]

/-- Two hyphens may stand behind the options. -/
def Lays (entries : List Entry) (texts : List Text) : Prop :=
  ∃ pieces, List.Forall₂ Entry.Writes entries pieces ∧
    (texts = pieces.flatten ∨ texts = pieces.flatten ++ [['-', '-']])

/-- The value that is given with an option, or else the default. -/
def Chosen (entries : List Entry) (name : Name) (default value : Text) : Prop :=
  .value name value ∈ entries ∨ value = default ∧ ∀ other, .value name other ∉ entries

structure Arguments.Tells (arguments : Arguments) (entries : List Entry) : Prop where
  once : (entries.map Entry.switch).Nodup
  level : Chosen entries .level "info".toList arguments.level
  trusted : Chosen entries .trusted [] arguments.trusted
  packages : Chosen entries .packages [] arguments.packages
  secrets : Chosen entries .secrets [] arguments.secrets
  directory : Chosen entries .directory "./".toList arguments.directory
  pattern : Chosen entries .pattern "dockerfile".toList arguments.pattern
  format : arguments.format = .text ↔ .value .format "text".toList ∈ entries
  out : ∀ path, arguments.out = some path ↔ .value .out path ∈ entries
  failOnViolation : arguments.failOnViolation = true ↔ .failOnViolation ∈ entries

theorem long_of_long_switch {text : Text} {switch : Switch}
    (found : longSwitch? text = some switch) : switch.long = text := by
  obtain ⟨known, first, rfl⟩ := Option.map_eq_some_iff.mp found
  have table : ∀ known ∈ longSwitches, known.2.long = known.1.toList := by decide
  rw [table known (List.mem_of_find?_eq_some first)]
  simpa using List.find?_some first

theorem letter_of_short_switch {letter : Char} {switch : Switch}
    (found : shortSwitch? letter = some switch) : switch.letter? = some letter := by
  obtain ⟨known, first, rfl⟩ := Option.map_eq_some_iff.mp found
  have table : ∀ known ∈ shortSwitches, known.2.letter? = some known.1 := by decide
  rw [table known (List.mem_of_find?_eq_some first)]
  simpa using List.find?_some first

namespace Progress

structure Tells (progress : Progress) (entries : List Entry) : Prop where
  once : (entries.map Entry.switch).Nodup
  given : ∀ name value, (name, value) ∈ progress.given ↔ .value name value ∈ entries
  failOnViolation : progress.failOnViolation = true ↔ .failOnViolation ∈ entries

inductive Holds : Option (Name × Option Text) → List Text → Prop
  | closed : Holds none []
  | named {name : Name} {opener : Text} (names : (Switch.value name).Names opener) :
      Holds (some (name, none)) [opener]
  | valued {name : Name} {opener value : Text} (names : (Switch.value name).Names opener)
      (apart : StandsApart value) : Holds (some (name, some value)) [opener, value]

def Reads (progress : Progress) (texts : List Text) : Prop :=
  ∃ entries pieces last, progress.Tells entries ∧ List.Forall₂ Entry.Writes entries pieces ∧
    Holds progress.pending last ∧ texts = pieces.flatten ++ last

section Steps

variable {progress next : Progress} {texts : List Text}

theorem reads_start : start.Reads [] :=
  ⟨[], [], [], ⟨List.nodup_nil, by simp [start], by simp [start]⟩, List.Forall₂.nil, .closed, rfl⟩

theorem Tells.once_add {entries : List Entry} (entry : Entry) (tells : progress.Tells entries)
    (fresh : ∀ other ∈ entries, other.switch ≠ entry.switch) :
    ((entries ++ [entry]).map Entry.switch).Nodup := by
  rw [List.map_append, List.nodup_append]
  refine ⟨tells.once, List.nodup_singleton _, ?_⟩
  intro before member switch here
  obtain ⟨other, among, rfl⟩ := List.mem_map.mp member
  obtain rfl := List.mem_singleton.mp here
  exact fresh other among

theorem Tells.give {entries : List Entry} {name : Name} {value : Text}
    (tells : progress.Tells entries) (gives : progress.give name value = .ok next) :
    next.Tells (entries ++ [.value name value]) ∧ next.pending = progress.pending := by
  unfold Progress.give at gives
  split at gives
  · cases gives
  · rename_i fresh
    split at gives
    · cases gives
      refine ⟨⟨tells.once_add _ ?_, ?_, ?_⟩, rfl⟩
      · intro entry member same
        cases entry with
        | value other known =>
            cases same
            exact fresh (List.any_eq_true.mpr ⟨_, (tells.given name known).mpr member, by simp⟩)
        | failOnViolation => cases same
      · intro other known
        simp only [List.mem_cons, Prod.mk.injEq, List.mem_append, List.not_mem_nil, or_false,
          Entry.value.injEq, tells.given]
        exact Or.comm
      · simpa using tells.failOnViolation
    · cases gives

theorem Reads.settle (reads : progress.Reads texts) (settled : progress.settle = .ok next) :
    next.Reads texts ∧ next.pending = none := by
  obtain ⟨entries, pieces, last, tells, written, holds, rfl⟩ := reads
  unfold Progress.settle at settled
  cases pending : progress.pending with
  | none =>
      rw [pending] at settled holds
      cases settled
      exact ⟨⟨entries, pieces, last, tells, written, pending ▸ holds, rfl⟩, pending⟩
  | some option =>
      obtain ⟨name, waiting⟩ := option
      rw [pending] at settled holds
      cases holds with
      | named => cases settled
      | @valued _ opener value names apart =>
          have closed : ({ progress with pending := none } : Progress).Tells entries :=
            ⟨tells.once, tells.given, tells.failOnViolation⟩
          obtain ⟨grown, same⟩ := closed.give settled
          refine ⟨⟨_, pieces ++ [[opener, value]], [], grown, ?_, same ▸ .closed, ?_⟩, same⟩
          · exact List.rel_append written (List.Forall₂.cons (.apart names apart) List.Forall₂.nil)
          · simp

theorem Reads.of_closed (reads : progress.Reads texts) (closed : progress.pending = none) :
    ∃ entries pieces, progress.Tells entries ∧ List.Forall₂ Entry.Writes entries pieces ∧
      texts = pieces.flatten := by
  obtain ⟨entries, pieces, last, tells, written, holds, rfl⟩ := reads
  rw [closed] at holds
  cases holds
  exact ⟨entries, pieces, tells, written, List.append_nil _⟩

theorem Reads.add {entry : Entry} {piece : List Text} (reads : progress.Reads texts)
    (closed : progress.pending = none) (still : next.pending = none)
    (tells : ∀ entries, progress.Tells entries → next.Tells (entries ++ [entry]))
    (writes : entry.Writes piece) : next.Reads (texts ++ piece) := by
  obtain ⟨entries, pieces, told, written, rfl⟩ := reads.of_closed closed
  refine ⟨_, pieces ++ [piece], [], tells entries told, ?_, still ▸ .closed, ?_⟩
  · exact List.rel_append written (List.Forall₂.cons writes List.Forall₂.nil)
  · simp

theorem Reads.use {switch : Switch} {text : Text} (reads : progress.Reads texts)
    (names : switch.Names text) (used : progress.use switch = .ok next) :
    next.Reads (texts ++ [text]) := by
  unfold Progress.use at used
  cases settled : progress.settle with
  | error failure =>
      rw [settled] at used
      cases used
  | ok after =>
      rw [settled] at used
      obtain ⟨afterReads, closed⟩ := reads.settle settled
      cases switch with
      | value name =>
          cases used
          obtain ⟨entries, pieces, tells, written, rfl⟩ := afterReads.of_closed closed
          exact ⟨entries, pieces, [text], ⟨tells.once, tells.given, tells.failOnViolation⟩, written,
            .named names, rfl⟩
      | failOnViolation =>
          dsimp only at used
          split at used
          · cases used
          · rename_i unset
            cases used
            have writes : Entry.failOnViolation.Writes [text] := by
              cases names with
              | long => exact .failOnViolation
              | short known => cases known
            refine afterReads.add closed closed ?_ writes
            intro entries tells
            have absent : Entry.failOnViolation ∉ entries := fun member =>
              unset (tells.failOnViolation.mpr member)
            refine ⟨tells.once_add _ ?_, ?_, by simp⟩
            · intro entry member same
              cases entry with
              | value other known => cases same
              | failOnViolation => exact absent member
            · intro name value
              simpa using tells.given name value
      | help | version => cases used

theorem Reads.use_with {name : Name} {value : Text} {piece : List Text}
    (reads : progress.Reads texts) (writes : (Entry.value name value).Writes piece)
    (used : progress.useWith (.value name) value = .ok next) : next.Reads (texts ++ piece) := by
  unfold Progress.useWith at used
  dsimp only at used
  cases settled : progress.settle with
  | error failure =>
      rw [settled] at used
      cases used
  | ok after =>
      rw [settled] at used
      obtain ⟨afterReads, closed⟩ := reads.settle settled
      have still : next.pending = none := by
        obtain ⟨entries, -, -, tells, -⟩ := afterReads
        exact (tells.give used).2.trans closed
      exact afterReads.add closed still (fun _ tells => (tells.give used).1) writes

theorem Reads.read_long {text : Text} (reads : progress.Reads texts)
    (read : progress.readLong text = .ok next) : next.Reads (texts ++ ['-' :: '-' :: text]) := by
  unfold readLong at read
  cases cut : Text.cutAt (· = '=') text with
  | none =>
      rw [cut] at read
      dsimp only at read
      cases named : longSwitch? text with
      | none =>
          rw [named] at read
          cases read
      | some switch =>
          rw [named] at read
          rw [← long_of_long_switch named]
          exact reads.use .long read
  | some parts =>
      obtain ⟨front, value⟩ := parts
      obtain ⟨sign, isSign, -, rfl⟩ := (Text.cut_at_eq_some_iff _ text front value).mp cut
      obtain rfl := of_decide_eq_true isSign
      rw [cut] at read
      dsimp only at read
      cases named : longSwitch? front with
      | none =>
          rw [named] at read
          cases read
      | some switch =>
          rw [named] at read
          rw [← long_of_long_switch named]
          cases switch with
          | value name => exact reads.use_with .long read
          | failOnViolation | help | version => cases read

/-- Letters without a value end the reading, so behind a letter that is served there is its value.
-/
theorem Reads.read_short {letter : Char} {rest : Text} (reads : progress.Reads texts)
    (read : progress.readShort (letter :: rest) = .ok next) :
    next.Reads (texts ++ ['-' :: letter :: rest]) := by
  unfold readShort at read
  cases named : shortSwitch? letter with
  | none =>
      rw [named] at read
      cases read
  | some switch =>
      rw [named] at read
      have known := letter_of_short_switch named
      cases switch with
      | value name =>
          dsimp only at read
          split at read
          · exact reads.use (.short known) read
          · exact reads.use_with (.equals known) read
          · rename_i nonempty noSign
            refine reads.use_with (.joined known nonempty ?_) read
            rintro c first rfl
            obtain ⟨tail, whole⟩ := List.head?_eq_some_iff.mp first
            exact noSign tail whole
      | failOnViolation => cases known
      | help | version =>
          dsimp only [Progress.use] at read
          cases settled : progress.settle with
          | error failure => simp [settled] at read
          | ok after => simp [settled] at read

theorem Reads.read_plain {text : Text} (reads : progress.Reads texts) (apart : StandsApart text)
    (read : progress.readPlain text = .ok next) : next.Reads (texts ++ [text]) := by
  obtain ⟨entries, pieces, last, tells, written, holds, rfl⟩ := reads
  unfold readPlain at read
  split at read
  · rename_i name pending
    cases read
    rw [pending] at holds
    cases holds with
    | @named _ opener names =>
        refine ⟨entries, pieces, [opener, text], ⟨tells.once, tells.given, tells.failOnViolation⟩,
          written, .valued names apart, ?_⟩
        rw [List.append_assoc]
        rfl
  · cases read

theorem Reads.read_argument {text : Text} (reads : progress.Reads texts)
    (read : progress.readArgument text = .ok next) : next.Reads (texts ++ [text]) := by
  unfold readArgument at read
  split at read
  · exact reads.read_long read
  · exact reads.read_short read
  · rename_i notTwo notOne
    refine reads.read_plain ?_ read
    cases text with
    | nil => exact Or.inr (by simp)
    | cons c rest =>
        by_cases hyphen : c = '-'
        · subst hyphen
          cases rest with
          | nil => exact Or.inl rfl
          | cons d tail => exact absurd rfl (notOne d tail)
        · exact Or.inr (by simpa using hyphen)

theorem Reads.read_all {rest : List Text} (reads : progress.Reads texts)
    (read : progress.readAll rest = .ok next) :
    ∃ entries, Lays entries (texts ++ rest) ∧ next.Tells entries := by
  -- Over the arguments that are left; what is read is added to the arguments accounted for.
  fun_induction readAll progress rest generalizing texts with
  | case1 progress =>
      obtain ⟨settled, closed⟩ := reads.settle read
      obtain ⟨entries, pieces, tells, written, rfl⟩ := settled.of_closed closed
      exact ⟨entries, ⟨pieces, written, Or.inl (List.append_nil _)⟩, tells⟩
  | case2 progress rest last =>
      obtain ⟨settled, closed⟩ := reads.settle read
      obtain ⟨entries, pieces, tells, written, rfl⟩ := settled.of_closed closed
      rw [List.isEmpty_iff.mp last]
      exact ⟨entries, ⟨pieces, written, Or.inr rfl⟩, tells⟩
  | case3 progress rest more => cases read
  | case4 progress text rest noEnd failure refused => cases read
  | case5 progress text rest noEnd after first ih =>
      obtain ⟨entries, lays, tells⟩ := ih (reads.read_argument first) read
      rw [List.append_assoc] at lays
      exact ⟨entries, lays, tells⟩

theorem Tells.value_eq_some_iff {entries : List Entry} (tells : progress.Tells entries)
    (name : Name) (value : Text) :
    progress.value? name = some value ↔ .value name value ∈ entries := by
  rw [← tells.given, value?, Option.map_eq_some_iff]
  constructor
  · rintro ⟨⟨other, known⟩, first, rfl⟩
    obtain rfl : other = name := by simpa using List.find?_some first
    exact List.mem_of_find?_eq_some first
  · intro member
    have present : (progress.given.find? fun known => known.1 = name).isSome = true :=
      List.find?_isSome.mpr ⟨_, member, by simp⟩
    obtain ⟨⟨other, known⟩, first⟩ := Option.isSome_iff_exists.mp present
    obtain rfl : other = name := by simpa using List.find?_some first
    have both : Entry.value other known = .value other value :=
      List.inj_on_of_nodup_map tells.once ((tells.given _ _).mp (List.mem_of_find?_eq_some first))
        ((tells.given _ _).mp member) rfl
    cases both
    exact ⟨_, first, rfl⟩

theorem Tells.chosen {entries : List Entry} (tells : progress.Tells entries) (name : Name)
    (default : Text) : Chosen entries name default ((progress.value? name).getD default) := by
  cases found : progress.value? name with
  | none =>
      refine Or.inr ⟨rfl, ?_⟩
      intro other member
      rw [(tells.value_eq_some_iff name other).mpr member] at found
      cases found
  | some value => exact Or.inl ((tells.value_eq_some_iff name value).mp found)

theorem Tells.arguments {entries : List Entry} (tells : progress.Tells entries) :
    progress.toArguments.Tells entries where
  once := tells.once
  level := tells.chosen .level _
  trusted := tells.chosen .trusted _
  packages := tells.chosen .packages _
  secrets := tells.chosen .secrets _
  directory := tells.chosen .directory _
  pattern := tells.chosen .pattern _
  format := by
    rw [← tells.value_eq_some_iff, toArguments]
    dsimp only
    split
    · simpa
    · simpa
  out := tells.value_eq_some_iff .out
  failOnViolation := tells.failOnViolation

end Steps
end Progress

/-- Valid arguments are options one after the other, and what they are read as is what these say. -/
theorem parse_tells {texts : List Text} {arguments : Arguments}
    (valid : Arguments.parse texts = .ok arguments) :
    ∃ entries, Lays entries texts ∧ arguments.Tells entries := by
  unfold Arguments.parse at valid
  cases read : Progress.start.readAll texts with
  | error failure =>
      rw [read] at valid
      cases valid
  | ok progress =>
      rw [read] at valid
      cases valid
      obtain ⟨entries, lays, tells⟩ := Progress.reads_start.read_all read
      exact ⟨entries, lays, tells.arguments⟩

theorem Entry.Writes.mem_fail_argument_iff {entry : Entry} {piece : List Text}
    (writes : entry.Writes piece) : failArgument ∈ piece ↔ .failOnViolation = entry := by
  -- An option with a value has another name or letter, and a value that stands apart does not begin
  -- like an option.
  have noHyphen : ∀ name, (Switch.value name).letter? ≠ some '-' := by
    intro name
    cases name <;> decide
  have noName : ∀ name, failName ≠ (Switch.value name).long := by
    intro name
    cases name <;> decide
  cases writes with
  | @apart name opener value names apart =>
      refine iff_of_false ?_ (by simp)
      intro member
      rcases List.mem_pair.mp member with same | same
      · rw [fail_argument_eq] at same
        rcases names with _ | known
        · exact noName name (List.cons.inj (List.cons.inj same).2).2
        · exact noHyphen name ((List.cons.inj (List.cons.inj same).2).1 ▸ known)
      · rcases apart with rfl | start
        · exact absurd same (by decide)
        · exact start '-' (by rw [← same]; rfl) rfl
  | @long name value =>
      refine iff_of_false ?_ (by simp)
      intro member
      have whole := List.mem_singleton.mp member
      have sign : '=' ∈ failArgument := by
        rw [whole]
        simp
      exact absurd sign (by decide)
  | @equals name letter value known | @joined name letter value known =>
      refine iff_of_false ?_ (by simp)
      intro member
      have whole := List.mem_singleton.mp member
      rw [fail_argument_eq] at whole
      exact noHyphen name ((List.cons.inj (List.cons.inj whole).2).1 ▸ known)
  | failOnViolation => simp

theorem fail_on_violation_iff {texts : List Text} {arguments : Arguments}
    (valid : Arguments.parse texts = .ok arguments) :
    arguments.failOnViolation = true ↔ failArgument ∈ texts := by
  obtain ⟨entries, ⟨pieces, written, ends⟩, tells⟩ := parse_tells valid
  have among : failArgument ∈ pieces.flatten ↔ .failOnViolation ∈ entries := by
    clear ends tells
    induction written with
    | nil => simp
    | cons writes _ ih =>
        rw [List.flatten_cons, List.mem_append, List.mem_cons, writes.mem_fail_argument_iff, ih]
  rw [tells.failOnViolation, ← among]
  rcases ends with rfl | rfl
  · rfl
  · rw [List.mem_append, or_iff_left (by decide)]

end CommandLine
end DockerfileAudit
