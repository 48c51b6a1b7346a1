import DockerfileAudit.Proofs.Json
import DockerfileAudit.Proofs.OneLine

/-!
Arguments that are given as a JSON array of strings. Cutting lines, trimming, looking for escapes
and for flags all leave a written array as it is, and the strings are read back one by one. But
heredocs are looked for in the strings, so a string with the text of a script may open one.
-/
set_option autoImplicit false

namespace DockerfileAudit

theorem Json.write_strings_starts (items : List Text) : ∃ rest, writeStrings items = '[' :: rest :=
  ⟨_, rfl⟩

namespace Argument

theorem exec_form_write_strings (items : List Text) :
    execForm? (Json.writeStrings items) = some items := by
  have starts : Text.startsWith (Json.writeStrings items) ['['] = true :=
    (Text.starts_with_iff _ _).mpr (Json.write_strings_starts items)
  rw [execForm?, if_pos starts, Json.parse_write_strings, Option.bind_some, Json.list_of_texts]

def arrayDirectives : List Text := commandDirectives ++ pathDirectives

theorem of_text_write_strings (directive : Text) (items : List Text)
    (takesArray : directive ∈ arrayDirectives) :
    ofText directive (Json.writeStrings items) = items := by
  unfold ofText
  rw [exec_form_write_strings, Option.getD_some, Option.getD_some]
  by_cases command : directive ∈ commandDirectives
  · rw [if_pos command]
  · have path : directive ∈ pathDirectives :=
      (List.mem_append.mp takesArray).resolve_left command
    rw [if_neg command, if_pos path]

theorem is_keyword_of_takes_array (directive : Text) (takesArray : directive ∈ arrayDirectives) :
    directive.IsKeyword := by
  have each : ∀ name ∈ arrayDirectives, Text.IsKeyword name := by decide
  exact each directive takesArray

end Argument

theorem Heredoc.opened_eq_nil_iff (statement : Statement) :
    opened statement = [] ↔ (statement.directive ∈ directives →
      ∀ arg ∈ statement.args, ∀ word ∈ Text.words arg, ofWord? word = none) := by
  unfold opened
  by_cases looked : statement.directive ∈ directives
  · rw [if_pos looked, List.filterMap_eq_nil_iff]
    simp only [List.mem_flatMap, looked, true_implies]
    constructor
    · intro noneFound arg member word inside
      exact noneFound word ⟨arg, member, inside⟩
    · rintro noneFound word ⟨arg, member, inside⟩
      exact noneFound arg member word inside
  · simp [looked]

namespace Document

theorem one_line_write_strings (items : List Text) : OneLine (Json.writeStrings items) := by
  have last : (Json.writeStrings items).getLast? = some ']' := by
    rw [Json.writeStrings, List.getLast?_concat]
  have starts : ∃ c ∈ (Json.writeStrings items).head?, Text.isBlank c = false :=
    ⟨'[', rfl, by decide⟩
  refine ⟨⟨starts, ⟨']', last, by decide⟩⟩, Json.feed_not_mem_write_strings items, ?_⟩
  rw [last]
  decide

theorem parse_array (word directive : Text) (items : List Text) (ending : Text)
    (named : Text.sameAscii word directive = true)
    (takesArray : directive ∈ Argument.arrayDirectives) (nonempty : items ≠ [])
    (ends : ending ∈ Text.lineEndings) :
    parse (command word (Json.writeStrings items) ++ ending) =
      match Heredoc.opened ⟨directive, [], items⟩ with
      | [] => .ok [⟨directive, [], items⟩]
      | heredoc :: _ => .error (.unterminatedHeredoc 1 heredoc.word) := by
  have args := Argument.of_text_write_strings directive items takesArray
  have whole := parse_command (Argument.is_keyword_of_takes_array directive takesArray) named
    (one_line_write_strings items) (fun _ => rfl) (by rw [args]; exact nonempty) ending ends
  rw [args] at whole
  exact whole

/-- A directive in any letters with a written array of strings is one statement with these strings,
exactly if heredocs are not looked for behind the directive or no word of a string opens one.
Otherwise the document is refused, for the first heredoc that a string opens has no end. -/
theorem array_is_kept_iff_opens_nothing (word directive : Text) (items : List Text) (ending : Text)
    (named : Text.sameAscii word directive = true)
    (takesArray : directive ∈ Argument.commandDirectives ++ Argument.pathDirectives)
    (nonempty : items ≠ []) (ends : ending ∈ Text.lineEndings) :
    (parse (command word (Json.writeStrings items) ++ ending) = .ok [⟨directive, [], items⟩] ↔
      (directive ∈ Heredoc.directives →
        ∀ item ∈ items, ∀ piece ∈ Text.words item, Heredoc.ofWord? piece = none)) ∧
      ∀ heredoc later, Heredoc.opened ⟨directive, [], items⟩ = heredoc :: later →
        parse (command word (Json.writeStrings items) ++ ending) =
          .error (.unterminatedHeredoc 1 heredoc.word) := by
  rw [parse_array word directive items ending named takesArray nonempty ends,
    ← Heredoc.opened_eq_nil_iff ⟨directive, [], items⟩]
  cases opens : Heredoc.opened ⟨directive, [], items⟩ with
  | nil => simp
  | cons heredoc later =>
      refine ⟨by simp, ?_⟩
      intro other others same
      rw [(List.cons.inj same).1]

/-- The only string is a command with a heredoc of its own, and yet the document is refused. -/
theorem heredoc_in_array_is_refused :
    command "RUN".toList (Json.writeStrings ["cat <<EOF".toList]) =
        "RUN [\"cat <<EOF\"]".toList ∧
      parse "RUN [\"cat <<EOF\"]".toList = .error (.unterminatedHeredoc 1 "EOF".toList) := by
  have written : command "RUN".toList (Json.writeStrings ["cat <<EOF".toList]) =
      "RUN [\"cat <<EOF\"]".toList := by decide
  have opens : Heredoc.opened ⟨"run".toList, [], ["cat <<EOF".toList]⟩ =
      [⟨"EOF".toList, false⟩] := by decide +kernel
  have refused := parse_array "RUN".toList "run".toList ["cat <<EOF".toList] [] (by decide)
    (by decide) (by simp) (by decide)
  rw [opens, List.append_nil, written] at refused
  exact ⟨written, refused⟩

theorem array_is_kept_iff_opens_nothing_quoted :
    parse (command "Cmd".toList (Json.writeStrings ["a\n\"<<EOF".toList, []]) ++ ['\n']) =
        .ok [⟨"cmd".toList, [], ["a\n\"<<EOF".toList, []]⟩] ∧
      parse (command "RUN".toList (Json.writeStrings ["cat <<EOF".toList]) ++ []) =
        .error (.unterminatedHeredoc 1 "EOF".toList) := by
  have kept := array_is_kept_iff_opens_nothing "Cmd".toList "cmd".toList ["a\n\"<<EOF".toList, []]
    ['\n'] (by decide) (by decide) (by simp) (by decide)
  have refused := array_is_kept_iff_opens_nothing "RUN".toList "run".toList ["cat <<EOF".toList] []
    (by decide) (by decide) (by simp) (by decide)
  constructor
  · exact kept.1.mpr fun looked => absurd looked (by decide)
  · exact refused.2 ⟨"EOF".toList, false⟩ [] (by decide +kernel)

end Document
end DockerfileAudit
