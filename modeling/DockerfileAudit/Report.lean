import DockerfileAudit.Json.Reader
import DockerfileAudit.Rule.Basic

/-!
Reports: for each rule that was checked, the files that break it, with details where the rule gives
any. They are written as text for people and as JSON for programs.
-/
set_option autoImplicit false

namespace DockerfileAudit

/-- What one rule found. The rule stands under its title. -/
structure Finding where
  rule : Text
  items : List Text
deriving DecidableEq

def Finding.of (rule : Rule) (items : List Text) : Finding := ⟨rule.title, items⟩

def Finding.isClean (finding : Finding) : Bool := finding.items.isEmpty

structure Report where
  findings : List Finding
deriving DecidableEq

namespace Report

def empty : Report := ⟨[]⟩

/-- The first finding under the title of a rule. -/
def get? (report : Report) (rule : Rule) : Option Finding :=
  report.findings.find? fun finding => finding.rule = rule.title

def hasViolations (report : Report) : Bool := report.findings.any fun finding => !finding.isClean

def violationCount (report : Report) : Nat :=
  report.findings.foldr (fun finding count => finding.items.length + count) 0

def detailItem (file detail : Text) : Text := file ++ ": ".toList ++ detail

/-- One item for each distinct detail of a file, in ascending order. -/
def detailItems (file : Text) (details : List Text) : List Text :=
  (sortedSet details).map (detailItem file)

def toolName : Text := "dockerbench".toList

def textLines (finding : Finding) : List Text :=
  if finding.isClean then ["[PASS] ".toList ++ finding.rule]
  else
    ("[FAIL] ".toList ++ finding.rule) :: finding.items.map fun item => "  - ".toList ++ item

def headLines (report : Report) (version : Text) : List Text :=
  [toolName ++ [' '] ++ version,
    "Rules evaluated: ".toList ++ Text.ofNat report.findings.length ++ ", violations: ".toList ++
      Text.ofNat report.violationCount]

/-- Every line ends in a line feed. -/
def toText (report : Report) (version : Text) : Text :=
  (headLines report version ++ report.findings.flatMap textLines).flatMap (· ++ ['\n'])

def reportName : Text := "cis_docker_benchmark_violation_report".toList

def ruleName : Text := "rule".toList

def itemsName : Text := "violations".toList

def findingJson (finding : Finding) : Text :=
  Json.writeObject 2
    [(ruleName, Json.writeString finding.rule),
      (itemsName, Json.writeArray 3 (finding.items.map Json.writeString))]

def toJson (report : Report) : Text :=
  Json.writeObject 0 [(reportName, Json.writeArray 1 (report.findings.map findingJson))]

def findingOfJson? (json : Json) : Option Finding :=
  match json.record? [ruleName, itemsName] with
  | some [rule, items] => do
      let rule ← rule.text?
      let items ← items.list? Json.text?
      return ⟨rule, items⟩
  | _ => none

def ofJson? (json : Json) : Option Report :=
  match json.record? [reportName] with
  | some [findings] => (findings.list? findingOfJson?).map fun findings => ⟨findings⟩
  | _ => none

def parse? (text : Text) : Option Report := (Json.parse text).bind ofJson?

end Report
end DockerfileAudit
