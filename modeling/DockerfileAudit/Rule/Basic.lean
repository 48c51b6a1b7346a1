import DockerfileAudit.Json.Basic
import DockerfileAudit.Text.CodeSet

/-!
The rules of the benchmark, in the order in which they are checked and reported, and the lists that
some of them are checked against. Without its list such a rule is not checked.
-/
set_option autoImplicit false

namespace DockerfileAudit

inductive Rule where
  | nonRootUser
  | trustedBaseImage
  | disallowedPackage
  | healthcheck
  | updateWithoutInstall
  | copyNotAdd
  | noSecrets
deriving DecidableEq

namespace Rule

def all : List Rule :=
  [.nonRootUser, .trustedBaseImage, .disallowedPackage, .healthcheck, .updateWithoutInstall,
    .copyNotAdd, .noSecrets]

def number : Rule → Text
  | .nonRootUser => "CIS-4.1".toList
  | .trustedBaseImage => "CIS-4.2".toList
  | .disallowedPackage => "CIS-4.3".toList
  | .healthcheck => "CIS-4.6".toList
  | .updateWithoutInstall => "CIS-4.7".toList
  | .copyNotAdd => "CIS-4.9".toList
  | .noSecrets => "CIS-4.10".toList

def title : Rule → Text
  | .nonRootUser => "CIS 4.1 Create a user for the container".toList
  | .trustedBaseImage => "CIS 4.2 Use trusted base images for containers".toList
  | .disallowedPackage =>
      "CIS 4.3 Do not install unnecessary packages in the container".toList
  | .healthcheck => "CIS 4.6 Add HEALTHCHECK instruction to the container image".toList
  | .updateWithoutInstall =>
      "CIS 4.7 Do not use update instructions alone in the Dockerfile".toList
  | .copyNotAdd => "CIS 4.9 Use COPY instead of ADD in Dockerfile".toList
  | .noSecrets => "CIS 4.10 Do not store secrets in Dockerfiles".toList

def name : Rule → Text
  | .nonRootUser => "NonRootUser".toList
  | .trustedBaseImage => "TrustedBaseImage".toList
  | .disallowedPackage => "DisallowedPackage".toList
  | .healthcheck => "Healthcheck".toList
  | .updateWithoutInstall => "UpdateWithoutInstall".toList
  | .copyNotAdd => "CopyNotAdd".toList
  | .noSecrets => "NoSecrets".toList

def ofName? (name : Text) : Option Rule := all.find? fun rule => rule.name = name

/-- Rules that are checked only against a list. -/
def needsList : Rule → Bool
  | .trustedBaseImage | .disallowedPackage | .noSecrets => true
  | _ => false

def position (rule : Rule) : Nat := all.idxOf rule

/-- A stored rule is its name, or an object with that name and nothing else in it. -/
def ofJson? : Json → Option Rule
  | .string (some name) => ofName? name
  | .object [(some name, .null)] => ofName? name
  | _ => none

def sort (rules : List Rule) : List Rule := all.flatMap fun rule => rules.filter (· = rule)

end Rule

/-- The lists, each as an ascending list without repetition: accepted images, packages that must
not be installed, and patterns of secrets. -/
structure RuleConfig where
  trusted : Option (List Text)
  packages : Option (List Text)
  secrets : Option (List Text)
deriving DecidableEq

namespace RuleConfig

def empty : RuleConfig := ⟨none, none, none⟩

/-- The trimmed items that are not empty, as a set. -/
def itemSet (items : List Text) : List Text :=
  sortedSet ((items.map Text.trim).filter fun item => !item.isEmpty)

/-- A list without items is no list. -/
def nonEmptySet (items : List Text) : Option (List Text) :=
  if (itemSet items).isEmpty then none else some (itemSet items)

def ofLists (trusted packages secrets : List Text) : RuleConfig :=
  ⟨nonEmptySet trusted, nonEmptySet packages, nonEmptySet secrets⟩

def list (config : RuleConfig) : Rule → Option (List Text)
  | .trustedBaseImage => config.trusted
  | .disallowedPackage => config.packages
  | .noSecrets => config.secrets
  | _ => none

def isEnabled (config : RuleConfig) (rule : Rule) : Bool :=
  !rule.needsList || (config.list rule).isSome

end RuleConfig
end DockerfileAudit
