import DockerfileAudit.Rule.Check

/-!
What the program says while it works. An event is what happened; its level, its words and its fields
follow from that. The events of checks and of registering stand in the order in which they happen.
-/
set_option autoImplicit false

namespace DockerfileAudit
namespace Text

/-- Characters without a glyph of their own: blanks other than the space, controls, formats,
and code points that are private or not assigned. -/
def isInvisible (c : Char) : Bool :=
  c != ' ' && Property.hasCategory ["zs", "zl", "zp", "cc", "cf", "co", "cn"] c

/-- A character of ASCII needs no look at a table. -/
def needsCode (c : Char) : Bool :=
  if c.toNat < 0x7F then c.toNat < 0x20
  else Property.graphemeExtend.codes.contains c.toNat || isInvisible c

def quoteChar (c : Char) : Text :=
  match c with
  | '\x00' => ['\\', '0']
  | '\t' => ['\\', 't']
  | '\r' => ['\\', 'r']
  | '\n' => ['\\', 'n']
  | '\\' => ['\\', '\\']
  | '"' => ['\\', '"']
  | _ =>
      if needsCode c then ['\\', 'u', '{'] ++ Nat.toDigits 16 c.toNat ++ ['}'] else [c]

def quoted (text : Text) : Text := ['"'] ++ text.flatMap quoteChar ++ ['"']

def quotedItems (opening closing : Char) (items : List Text) : Text :=
  [opening] ++ join [',', ' '] (items.map quoted) ++ [closing]

end Text

inductive Severity where
  | error
  | warn
  | info
  | debug
  | trace
deriving DecidableEq

namespace Severity

/-- The place of a severity, counted from one; zero is left for silence. -/
def rank : Severity → Nat
  | .error => 1
  | .warn => 2
  | .info => 3
  | .debug => 4
  | .trace => 5

def name : Severity → Text
  | .error => "ERROR".toList
  | .warn => "WARN".toList
  | .info => "INFO".toList
  | .debug => "DEBUG".toList
  | .trace => "TRACE".toList

end Severity

/-- The value of a field. Plain text is quoted in a line of the log; words that are made for
reading stand as they are. -/
inductive FieldValue where
  | plain (text : Text)
  | number (n : Nat)
  | shown (text : Text)
deriving DecidableEq

inductive Event where
  | executableIgnored (path : Text)
  | pathSkipped (error : Text)
  | fileUnknown (path error : Text)
  | patternIgnored (pattern : Text)
  | statementDropped (file : Text)
  | packagesInstalled (file : Text) (packages : List Text)
  | ruleEvaluated (rule : Rule) (violations : Nat)
  | ruleDisabled (rule : Rule)
  | registered (file : Text) (appended total : Nat)
  | auditComplete (files rules violations : Nat)
  | fileSkipped (file error : Text)
  | trustedImages (images : List Text)
  | disallowedPackages (packages : List Text)
  | secretPatterns (patterns : List Text)
  | discovered (directory : Text) (count : Nat)
deriving DecidableEq

namespace Event

def severity : Event → Severity
  | .executableIgnored _ => .debug
  | .pathSkipped _ => .warn
  | .fileUnknown _ _ => .warn
  | .patternIgnored _ => .warn
  | .statementDropped _ => .warn
  | .packagesInstalled _ _ => .debug
  | .ruleEvaluated _ _ => .debug
  | .ruleDisabled _ => .debug
  | .registered _ _ _ => .debug
  | .auditComplete _ _ _ => .info
  | .fileSkipped _ _ => .error
  | .trustedImages _ => .info
  | .disallowedPackages _ => .info
  | .secretPatterns _ => .info
  | .discovered _ _ => .info

def message : Event → Text
  | .executableIgnored _ => "ignoring executable file".toList
  | .pathSkipped _ => "skipping unreadable path".toList
  | .fileUnknown _ _ => "cannot stat file".toList
  | .patternIgnored _ => "ignoring invalid content pattern".toList
  | .statementDropped _ => "dropping node without directive".toList
  | .packagesInstalled _ _ => "disallowed packages installed".toList
  | .ruleEvaluated _ _ => "rule evaluated".toList
  | .ruleDisabled _ => "rule disabled: no list configured".toList
  | .registered _ _ _ => "registered instructions".toList
  | .auditComplete _ _ _ => "benchmark complete".toList
  | .fileSkipped _ _ => "skipping dockerfile".toList
  | .trustedImages _ => "trusted base images".toList
  | .disallowedPackages _ => "disallowed packages".toList
  | .secretPatterns _ => "secret patterns".toList
  | .discovered _ _ => "discovered dockerfiles".toList

def target : Event → Text
  | .executableIgnored _ => "dockerbench_core::dockerfile::discover".toList
  | .pathSkipped _ => "dockerbench_core::dockerfile::discover".toList
  | .fileUnknown _ _ => "dockerbench_core::dockerfile::discover".toList
  | .patternIgnored _ => "dockerbench_core::instructions::index".toList
  | .statementDropped _ => "dockerbench_core::instructions::model".toList
  | .packagesInstalled _ _ => "dockerbench_core::rules::checks".toList
  | .ruleEvaluated _ _ => "dockerbench_core::rules::eval".toList
  | .ruleDisabled _ => "dockerbench_core::rules::eval".toList
  | .registered _ _ _ => "dockerbench_core::benchmarker".toList
  | .auditComplete _ _ _ => "dockerbench_core::benchmarker".toList
  | .fileSkipped _ _ => "dockerbench_core".toList
  | .trustedImages _ => "dockerbench".toList
  | .disallowedPackages _ => "dockerbench".toList
  | .secretPatterns _ => "dockerbench".toList
  | .discovered _ _ => "dockerbench".toList

def textSet (items : List Text) : FieldValue := .shown (Text.quotedItems '{' '}' items)

def textList (items : List Text) : FieldValue := .shown (Text.quotedItems '[' ']' items)

def fields : Event → List (Text × FieldValue)
  | .executableIgnored path => [("path".toList, .shown path)]
  | .pathSkipped error => [("error".toList, .shown error)]
  | .fileUnknown path error => [("path".toList, .shown path), ("error".toList, .shown error)]
  | .patternIgnored pattern => [("pattern".toList, .plain pattern)]
  | .statementDropped file => [("file".toList, .shown file)]
  | .packagesInstalled file packages =>
      [("file".toList, .shown file), ("packages".toList, textSet packages)]
  | .ruleEvaluated rule violations =>
      [("rule".toList, .plain rule.number), ("violations".toList, .number violations)]
  | .ruleDisabled rule => [("rule".toList, .plain rule.number)]
  | .registered file appended total =>
      [("file".toList, .plain file), ("appended".toList, .number appended),
        ("total".toList, .number total)]
  | .auditComplete files rules violations =>
      [("files".toList, .number files), ("rules".toList, .number rules),
        ("violations".toList, .number violations)]
  | .fileSkipped file error => [("file".toList, .shown file), ("error".toList, .shown error)]
  | .trustedImages images => [("images".toList, textList images)]
  | .disallowedPackages packages => [("packages".toList, textList packages)]
  | .secretPatterns patterns => [("patterns".toList, textList patterns)]
  | .discovered directory count =>
      [("directory".toList, .shown directory), ("count".toList, .number count)]

/-- The names that a filter can ask for: the message counts as a field, and a pattern that is
ignored comes with the reason. -/
def fieldNames (event : Event) : List Text :=
  let names := "message".toList :: event.fields.map Prod.fst
  match event with
  | .patternIgnored _ => "error".toList :: names
  | _ => names

def valueText : FieldValue → Text
  | .plain text => Text.quoted text
  | .number n => Text.ofNat n
  | .shown text => text

/-- The event as a line of the log; words that run over several lines are cut at the first. -/
def line (event : Event) : Text :=
  (event.severity.name ++ [' '] ++ event.message ++
    event.fields.flatMap fun field => [' '] ++ field.1 ++ ['='] ++ valueText field.2).takeWhile
    (· ≠ '\n')

end Event

namespace Log

def ofPattern (pattern : Text) : List Event :=
  match Pattern.compile pattern with
  | some _ => []
  | none => [.patternIgnored pattern]

def ofPackages (matchers : List (Text × List Pattern.Regex)) (set : InstructionSet) : List Event :=
  match sortedSet (Check.installedPackages matchers set) with
  | [] => []
  | packages => [.packagesInstalled set.file packages]

def ofCheck (rule : Rule) (list : List Text) (files : Files) : List Event :=
  match rule with
  | .disallowedPackage =>
      let packages := sortedSet list
      let matchers := Check.packageMatchers packages
      (packages.flatMap Check.packagePatterns).flatMap ofPattern ++
        files.sets.flatMap (ofPackages matchers)
  | .noSecrets => (sortedSet list).flatMap ofPattern
  | _ => []

/-- Only the checks against a list have events of their own. -/
def ofRule (rule : Rule) (files : Files) (config : RuleConfig) : List Event :=
  (config.list rule).elim [] fun list => ofCheck rule list files

def ofEvaluation (files : Files) (config : RuleConfig) : List Event :=
  Rule.all.flatMap fun rule =>
    match rule.evaluate files config with
    | some finding => ofRule rule files config ++ [.ruleEvaluated rule finding.items.length]
    | none => [.ruleDisabled rule]

def ofDropped (file : Text) (statements : List Statement) : List Event :=
  (statements.filter fun statement => !InstructionSet.accepts statement).map fun _ =>
    .statementDropped file

end Log
end DockerfileAudit
