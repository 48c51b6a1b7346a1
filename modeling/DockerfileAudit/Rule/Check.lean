import DockerfileAudit.Instruction.Files
import DockerfileAudit.Report

/-!
The checks of the rules, and the report of all that are enabled. Each check looks at one file at a
time, in the order of the files; a check against a list reports details, the others only the file.
-/
set_option autoImplicit false

namespace DockerfileAudit
namespace Check

def filesWhere (bad : InstructionSet → Bool) (files : Files) : List Text :=
  (files.sets.filter bad).map InstructionSet.file

def detailsOf (details : InstructionSet → List Text) (files : Files) : List Text :=
  files.sets.flatMap fun set => Report.detailItems set.file (details set)

/-- A user other than root: no part between colons names root by name or number. -/
def isOrdinaryUser (spec : Text) : Bool :=
  (Text.fields (· = ':') (Text.lower spec)).all fun part =>
    part != "root".toList && part != "0".toList

def setsOrdinaryUser (instruction : Instruction) : Bool :=
  instruction.is "user".toList &&
    match instruction.content with
    | spec :: _ => isOrdinaryUser spec
    | [] => false

def nonRootUser (files : Files) : Finding :=
  .of .nonRootUser (filesWhere (fun set => !set.instructions.any setsOrdinaryUser) files)

def untrustedImages (trusted : List Text) (set : InstructionSet) : List Text :=
  set.baseImages.filter fun image => !trusted.contains image

def trustedBaseImages (trusted : List Text) (files : Files) : Finding :=
  .of .trustedBaseImage (detailsOf (untrustedImages trusted) files)

/-- How packages are installed; the name of a package follows. -/
def installIdioms : List Text :=
  ["apt\\s+install\\s+[^;|&]+".toList, "apt-get\\s+install\\s+[^;|&]+".toList,
    "apk\\s+add\\s+[^;|&]+".toList]

/-- The patterns of a package. The name is part of the pattern, so its special characters keep
their meaning. -/
def packagePatterns (package : Text) : List Text := installIdioms.map (· ++ package)

def packageMatchers (packages : List Text) : List (Text × List Pattern.Regex) :=
  packages.map fun package => (package, (packagePatterns package).filterMap Pattern.compile)

def installedPackages (matchers : List (Text × List Pattern.Regex)) (set : InstructionSet) :
    List Text :=
  (matchers.filter fun matcher =>
    matcher.2.any fun regex => !(set.positions "run".toList regex).isEmpty).map Prod.fst

def disallowedPackages (packages : List Text) (files : Files) : Finding :=
  let matchers := packageMatchers packages
  .of .disallowedPackage (detailsOf (installedPackages matchers) files)

def healthcheck (files : Files) : Finding :=
  .of .healthcheck (filesWhere (fun set => !set.hasDirective "healthcheck".toList) files)

/-- For each package manager, how its index is updated and how packages are installed. -/
def updatePatterns : List (Text × Text) :=
  [("apt\\s+update".toList, "apt\\s+install".toList),
    ("apt-get\\s+update".toList, "apt-get\\s+install".toList),
    ("apk\\s+update".toList, "apk\\s+add".toList)]

def updateMatchers : List (Pattern.Regex × Pattern.Regex) :=
  updatePatterns.filterMap fun pair =>
    match Pattern.compile pair.1, Pattern.compile pair.2 with
    | some update, some install => some (update, install)
    | _, _ => none

def updatesAlone (matchers : List (Pattern.Regex × Pattern.Regex)) (set : InstructionSet) : Bool :=
  matchers.any fun pair =>
    !(unmatchedPositions (set.positions "run".toList pair.1)
      (set.positions "run".toList pair.2)).isEmpty

def updateWithoutInstall (files : Files) : Finding :=
  .of .updateWithoutInstall (filesWhere (updatesAlone updateMatchers) files)

def copyNotAdd (files : Files) : Finding :=
  .of .copyNotAdd (filesWhere (fun set => set.hasDirective "add".toList) files)

def secretMatchers (patterns : List Text) : List (Text × Pattern.Regex) :=
  patterns.filterMap fun pattern => (Pattern.compile pattern).map fun regex => (pattern, regex)

def secretDetail (directive pattern : Text) : Text :=
  directive ++ " contains '".toList ++ pattern ++ "'".toList

def secretDetails (set : InstructionSet) (matcher : Text × Pattern.Regex) : List Text :=
  (if (set.positions "env".toList matcher.2).isEmpty then []
    else [secretDetail "ENV".toList matcher.1]) ++
    (if (set.positions "label".toList matcher.2).isEmpty then []
    else [secretDetail "LABEL".toList matcher.1])

def secrets (patterns : List Text) (files : Files) : Finding :=
  let matchers := secretMatchers patterns
  .of .noSecrets (detailsOf (fun set => matchers.flatMap (secretDetails set)) files)

end Check

/-- What a rule finds. A rule that needs a list finds nothing without one. -/
def Rule.check (rule : Rule) (list : Option (List Text)) (files : Files) : Option Finding :=
  match rule with
  | .nonRootUser => some (Check.nonRootUser files)
  | .trustedBaseImage => list.map fun trusted => Check.trustedBaseImages trusted files
  | .disallowedPackage => list.map fun packages => Check.disallowedPackages packages files
  | .healthcheck => some (Check.healthcheck files)
  | .updateWithoutInstall => some (Check.updateWithoutInstall files)
  | .copyNotAdd => some (Check.copyNotAdd files)
  | .noSecrets => list.map fun patterns => Check.secrets patterns files

def Rule.items (rule : Rule) (list : List Text) (files : Files) : List Text :=
  (rule.check (some list) files).elim [] Finding.items

def Rule.evaluate (rule : Rule) (files : Files) (config : RuleConfig) : Option Finding :=
  if config.isEnabled rule then rule.check (config.list rule) files else none

/-- The findings of all rules that the configuration does not leave out. -/
def evaluate (files : Files) (config : RuleConfig) : Report :=
  ⟨Rule.all.filterMap fun rule => rule.evaluate files config⟩

end DockerfileAudit
