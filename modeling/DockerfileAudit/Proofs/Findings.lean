import DockerfileAudit.Proofs.SortedSet
import DockerfileAudit.Proofs.Trim
import DockerfileAudit.Rule.Check

/-!
Which findings a report has. A report holds the finding of each rule that the configuration enables,
and it is looked up under a title, so titles must tell the rules apart. Of the lists that a
configuration is made from, only the set of trimmed items that are not blank can be seen in a
report.
-/
set_option autoImplicit false

namespace DockerfileAudit
namespace Rule

theorem mem_all (rule : Rule) : rule ∈ all := by
  cases rule <;> decide

theorem nodup_all : all.Nodup := by decide

theorem title_injective : Function.Injective title := by
  have apart : ∀ left ∈ all, ∀ right ∈ all, left.title = right.title → left = right := by
    decide +kernel
  intro left right same
  exact apart left (mem_all left) right (mem_all right) same

def finding (rule : Rule) (files : Files) (config : RuleConfig) : Finding :=
  Finding.of rule (rule.items ((config.list rule).getD []) files)

theorem check_some (rule : Rule) (list : List Text) (files : Files) :
    rule.check (some list) files = some (Finding.of rule (rule.items list files)) := by
  cases rule <;> rfl

theorem check_eq_of_needs_list (rule : Rule) (list : Option (List Text)) (files : Files)
    (given : rule.needsList = true → list.isSome = true) :
    rule.check list files = rule.check (some (list.getD [])) files := by
  cases list with
  | some list => rfl
  | none =>
      have free : rule.needsList = false := Bool.eq_false_iff.mpr fun needs => by
        simpa using given needs
      cases rule with
      | nonRootUser | healthcheck | updateWithoutInstall | copyNotAdd => rfl
      | trustedBaseImage | disallowedPackage | noSecrets => cases free

theorem evaluate_of_enabled (rule : Rule) (files : Files) (config : RuleConfig)
    (enabled : config.isEnabled rule = true) :
    rule.evaluate files config = some (rule.finding files config) := by
  have given : rule.needsList = true → (config.list rule).isSome = true := by
    intro needs
    simpa [RuleConfig.isEnabled, needs] using enabled
  rw [evaluate, if_pos enabled, check_eq_of_needs_list rule _ files given, check_some]
  rfl

theorem evaluate_of_disabled (rule : Rule) (files : Files) (config : RuleConfig)
    (disabled : ¬config.isEnabled rule = true) : rule.evaluate files config = none := by
  rw [evaluate, if_neg disabled]

theorem is_some_evaluate (rule : Rule) (files : Files) (config : RuleConfig) :
    (rule.evaluate files config).isSome = config.isEnabled rule := by
  by_cases present : config.isEnabled rule = true
  · rw [rule.evaluate_of_enabled files config present, present]
    rfl
  · rw [rule.evaluate_of_disabled files config present, Bool.eq_false_iff.mpr present]
    rfl

def enabled (config : RuleConfig) : List Rule := all.filter config.isEnabled

theorem mem_enabled (config : RuleConfig) (rule : Rule) :
    rule ∈ enabled config ↔ config.isEnabled rule = true := by
  rw [enabled, List.mem_filter]
  exact and_iff_right (mem_all rule)

/-- A title leads to its own rule if that is enabled, and to no other. -/
theorem find_title_enabled (config : RuleConfig) (rule : Rule) :
    ((enabled config).find? fun other => other.title = rule.title) =
      if config.isEnabled rule then some rule else none := by
  by_cases present : config.isEnabled rule = true
  · rw [if_pos present]
    cases found : (enabled config).find? fun other => other.title = rule.title with
    | none =>
        have missing := List.find?_eq_none.mp found rule ((mem_enabled config rule).mpr present)
        simp at missing
    | some other =>
        have same := List.find?_some found
        rw [title_injective (of_decide_eq_true same)]
  · rw [if_neg present, List.find?_eq_none]
    intro other member same
    rw [title_injective (of_decide_eq_true same), mem_enabled] at member
    exact present member

end Rule

/-- A report holds the findings of the enabled rules. -/
theorem findings_evaluate (files : Files) (config : RuleConfig) :
    (evaluate files config).findings =
      (Rule.enabled config).map fun rule => rule.finding files config := by
  unfold evaluate Rule.enabled
  dsimp only
  induction Rule.all with
  | nil => rfl
  | cons rule rest ih =>
      rw [List.filterMap_cons]
      by_cases present : config.isEnabled rule = true
      · rw [rule.evaluate_of_enabled files config present, List.filter_cons_of_pos present,
          List.map_cons, ih]
      · rw [rule.evaluate_of_disabled files config present, List.filter_cons_of_neg present, ih]

theorem get_evaluate (files : Files) (config : RuleConfig) (rule : Rule) :
    (evaluate files config).get? rule = rule.evaluate files config := by
  unfold Report.get?
  rw [findings_evaluate, List.find?_map]
  have byTitle : (fun finding : Finding => decide (finding.rule = rule.title)) ∘
      (fun other : Rule => other.finding files config) =
        fun other => decide (other.title = rule.title) := rfl
  rw [byTitle, Rule.find_title_enabled]
  by_cases present : config.isEnabled rule = true
  · rw [if_pos present, rule.evaluate_of_enabled files config present]
    rfl
  · rw [if_neg present, rule.evaluate_of_disabled files config present]
    rfl

theorem results_of_enabled (files : Files) (config : RuleConfig) :
    (evaluate files config).findings.map some =
      (Rule.enabled config).map fun rule => rule.evaluate files config := by
  rw [findings_evaluate, List.map_map]
  apply List.map_congr_left
  intro rule member
  exact (rule.evaluate_of_enabled files config ((Rule.mem_enabled config rule).mp member)).symm

theorem titles_of_enabled (files : Files) (config : RuleConfig) :
    (evaluate files config).findings.map Finding.rule = (Rule.enabled config).map Rule.title := by
  rw [findings_evaluate, List.map_map]
  rfl

theorem nodup_titles (files : Files) (config : RuleConfig) :
    ((evaluate files config).findings.map Finding.rule).Nodup := by
  rw [titles_of_enabled]
  exact (Rule.nodup_all.filter _).map Rule.title_injective

namespace RuleConfig

/-- The same items after trimming, those that are blank apart. -/
def SameItems (left right : List Text) : Prop :=
  ∀ item, item ≠ [] → (item ∈ left.map Text.trim ↔ item ∈ right.map Text.trim)

instance : DecidableRel SameItems := fun left right =>
  decidable_of_iff
    ((∀ item ∈ left.map Text.trim, item ≠ [] → item ∈ right.map Text.trim) ∧
      ∀ item ∈ right.map Text.trim, item ≠ [] → item ∈ left.map Text.trim)
    ⟨fun both item some => ⟨fun member => both.1 item member some,
        fun member => both.2 item member some⟩,
      fun same => ⟨fun item member some => (same item some).mp member,
        fun item member some => (same item some).mpr member⟩⟩

theorem mem_trimmed (item : Text) (items : List Text) :
    item ∈ (items.map Text.trim).filter (fun item => !item.isEmpty) ↔
      item ∈ items.map Text.trim ∧ item ≠ [] := by
  rw [List.mem_filter, Bool.not_eq_true', List.isEmpty_eq_false_iff]

theorem mem_item_set (item : Text) (items : List Text) :
    item ∈ itemSet items ↔ item ∈ items.map Text.trim ∧ item ≠ [] :=
  (mem_sorted_set item _).trans (mem_trimmed item items)

theorem non_empty_set_eq_of_same (left right : List Text) (same : SameItems left right) :
    nonEmptySet left = nonEmptySet right := by
  have sameSet : itemSet left = itemSet right := by
    apply sorted_set_eq_of_same_members
    intro item
    rw [mem_trimmed, mem_trimmed]
    constructor
    · rintro ⟨member, some⟩
      exact ⟨(same item some).mp member, some⟩
    · rintro ⟨member, some⟩
      exact ⟨(same item some).mpr member, some⟩
  unfold nonEmptySet
  rw [sameSet]

theorem non_empty_set_is_some_iff (items : List Text) :
    (nonEmptySet items).isSome = true ↔ ∃ item ∈ items, ∃ c ∈ item, Text.isBlank c = false := by
  have nonempty : (nonEmptySet items).isSome = true ↔ ∃ item, item ∈ itemSet items := by
    unfold nonEmptySet
    cases itemSet items with
    | nil => simp
    | cons first rest => simp
  rw [nonempty]
  constructor
  · rintro ⟨trimmed, member⟩
    obtain ⟨inside, some⟩ := (mem_item_set trimmed items).mp member
    obtain ⟨item, there, rfl⟩ := List.mem_map.mp inside
    rw [ne_eq, Text.trim_eq_nil_iff] at some
    push Not at some
    obtain ⟨c, among, unblank⟩ := some
    exact ⟨item, there, c, among, by simpa using unblank⟩
  · rintro ⟨item, there, c, among, unblank⟩
    refine ⟨Text.trim item, (mem_item_set _ _).mpr ⟨List.mem_map_of_mem there, ?_⟩⟩
    rw [ne_eq, Text.trim_eq_nil_iff]
    intro blank
    rw [blank c among] at unblank
    simp at unblank

def listAmong (trusted packages secrets : List Text) : Rule → List Text
  | .trustedBaseImage => trusted
  | .disallowedPackage => packages
  | .noSecrets => secrets
  | _ => []

theorem is_enabled_of_lists (trusted packages secrets : List Text) (rule : Rule)
    (driven : rule.needsList = true) :
    (ofLists trusted packages secrets).isEnabled rule =
      (nonEmptySet (listAmong trusted packages secrets rule)).isSome := by
  cases rule <;> first | rfl | simp [Rule.needsList] at driven

end RuleConfig

/-- The report and the rules one by one agree. The findings of a report are what the enabled rules
find, in the order of the catalog, each under the title of its rule and no title twice, and looking
a rule up gives what evaluating it gives. With lists that are given as texts, a rule that needs a
list has a finding exactly if one of its items is not blank, and lists with the same trimmed items
give the same report. -/
theorem evaluate_agrees_with_rules (files : Files) (config : RuleConfig) :
    (evaluate files config).findings.map some =
        (Rule.all.filter config.isEnabled).map (fun rule => rule.evaluate files config) ∧
      (evaluate files config).findings.map Finding.rule =
        (Rule.all.filter config.isEnabled).map Rule.title ∧
      ((evaluate files config).findings.map Finding.rule).Nodup ∧
      (∀ rule, (evaluate files config).get? rule = rule.evaluate files config) ∧
      (∀ trusted packages secrets rule, rule.needsList = true →
        (((evaluate files (RuleConfig.ofLists trusted packages secrets)).get? rule).isSome = true ↔
          ∃ item ∈ RuleConfig.listAmong trusted packages secrets rule, ∃ c ∈ item,
            Text.isBlank c = false)) ∧
      ∀ trusted packages secrets trusted' packages' secrets',
        RuleConfig.SameItems trusted trusted' → RuleConfig.SameItems packages packages' →
        RuleConfig.SameItems secrets secrets' →
          evaluate files (RuleConfig.ofLists trusted packages secrets) =
            evaluate files (RuleConfig.ofLists trusted' packages' secrets') := by
  refine ⟨results_of_enabled files config, titles_of_enabled files config,
    nodup_titles files config, get_evaluate files config, ?_, ?_⟩
  · intro trusted packages secrets rule driven
    rw [get_evaluate, Rule.is_some_evaluate, RuleConfig.is_enabled_of_lists _ _ _ _ driven]
    exact RuleConfig.non_empty_set_is_some_iff _
  · intro trusted packages secrets trusted' packages' secrets' sameTrusted samePackages sameSecrets
    unfold RuleConfig.ofLists
    rw [RuleConfig.non_empty_set_eq_of_same _ _ sameTrusted,
      RuleConfig.non_empty_set_eq_of_same _ _ samePackages,
      RuleConfig.non_empty_set_eq_of_same _ _ sameSecrets]

def Files.ofBaseImage : Files :=
  Files.empty.register "f".toList [⟨"from".toList, [], ["a".toList]⟩]

theorem evaluate_agrees_on_untidy_lists :
    ((evaluate Files.ofBaseImage (RuleConfig.ofLists [" a ".toList] [" ".toList] [])).get?
        .trustedBaseImage).isSome = true ∧
      evaluate Files.ofBaseImage (RuleConfig.ofLists [" a ".toList, "b".toList] [" ".toList] []) =
        evaluate Files.ofBaseImage
          (RuleConfig.ofLists ["b".toList, "a\t".toList, "b".toList] [] [[]]) := by
  have general := evaluate_agrees_with_rules Files.ofBaseImage RuleConfig.empty
  constructor
  · exact (general.2.2.2.2.1 [" a ".toList] [" ".toList] [] .trustedBaseImage rfl).mpr
      ⟨" a ".toList, by simp [RuleConfig.listAmong], 'a', by decide, by decide⟩
  · exact general.2.2.2.2.2 _ _ _ _ _ _ (by decide) (by decide) (by decide)

end DockerfileAudit
