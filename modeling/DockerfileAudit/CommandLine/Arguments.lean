import DockerfileAudit.Tree.Discover

/-!
The arguments of the command line. An option is complete when the next one begins or the arguments
end; only then is its value looked at.
-/
set_option autoImplicit false

namespace DockerfileAudit
namespace CommandLine

inductive OutputFormat where
  | json
  | text
deriving DecidableEq

structure Arguments where
  level : Text
  trusted : Text
  packages : Text
  secrets : Text
  directory : Text
  pattern : Text
  format : OutputFormat
  out : Option Text
  failOnViolation : Bool
deriving DecidableEq

inductive UsageError where
  | unknownArgument
  | invalidValue
  | argumentConflict
  | tooManyValues
  | displayHelp
  | displayVersion
deriving DecidableEq

inductive Name where
  | level
  | trusted
  | packages
  | secrets
  | directory
  | pattern
  | format
  | out
deriving DecidableEq

inductive Switch where
  | value (name : Name)
  | failOnViolation
  | help
  | version
deriving DecidableEq

def longSwitches : List (String × Switch) := [
  ("level", .value .level),
  ("trusted-base-images", .value .trusted),
  ("disallowed-packages", .value .packages),
  ("secret-patterns", .value .secrets),
  ("directory", .value .directory),
  ("dockerfile-pattern", .value .pattern),
  ("format", .value .format),
  ("out", .value .out),
  ("fail-on-violation", .failOnViolation),
  ("help", .help),
  ("version", .version)]

def shortSwitches : List (Char × Switch) := [
  ('b', .value .trusted),
  ('p', .value .packages),
  ('s', .value .secrets),
  ('d', .value .directory),
  ('f', .value .pattern),
  ('h', .help),
  ('V', .version)]

def longSwitch? (name : Text) : Option Switch :=
  (longSwitches.find? fun known => known.1.toList = name).map Prod.snd

def shortSwitch? (letter : Char) : Option Switch :=
  (shortSwitches.find? fun known => known.1 = letter).map Prod.snd

/-- The arguments read so far: the values of complete options, the option that still waits for its
value or for its end, and whether violations shall fail the run. -/
structure Progress where
  given : List (Name × Text)
  pending : Option (Name × Option Text)
  failOnViolation : Bool

namespace Progress

def start : Progress := ⟨[], none, false⟩

def isValid (name : Name) (value : Text) : Bool :=
  match name with
  | .directory | .out => !value.isEmpty
  | .format => value = "json".toList || value = "text".toList
  | _ => true

def give (progress : Progress) (name : Name) (value : Text) : Except UsageError Progress :=
  if progress.given.any fun known => known.1 = name then .error .argumentConflict
  else if isValid name value then
    .ok { progress with given := (name, value) :: progress.given }
  else .error .invalidValue

/-- Completes the option that is pending; it needs a value. -/
def settle (progress : Progress) : Except UsageError Progress :=
  match progress.pending with
  | none => .ok progress
  | some (_, none) => .error .invalidValue
  | some (name, some value) => { progress with pending := none }.give name value

def use (progress : Progress) (switch : Switch) : Except UsageError Progress :=
  match progress.settle with
  | .error failure => .error failure
  | .ok progress =>
      match switch with
      | .value name => .ok { progress with pending := some (name, none) }
      | .failOnViolation =>
          if progress.failOnViolation then .error .argumentConflict
          else .ok { progress with failOnViolation := true }
      | .help => .error .displayHelp
      | .version => .error .displayVersion

def useWith (progress : Progress) (switch : Switch) (value : Text) :
    Except UsageError Progress :=
  match switch with
  | .value name =>
      match progress.settle with
      | .error failure => .error failure
      | .ok progress => progress.give name value
  | _ => .error .tooManyValues

def readLong (progress : Progress) (text : Text) : Except UsageError Progress :=
  let (name, value) :=
    match Text.cutAt (· = '=') text with
    | some (name, value) => (name, some value)
    | none => (text, none)
  match longSwitch? name, value with
  | none, _ => .error .unknownArgument
  | some switch, none => progress.use switch
  | some switch, some value => progress.useWith switch value

/-- Letters after one hyphen. What follows the letter of an option is its value, without an equals
sign between them. -/
def readShort (progress : Progress) : Text → Except UsageError Progress
  | [] => .ok progress
  | letter :: rest =>
      match shortSwitch? letter with
      | none => .error .unknownArgument
      | some (.value name) =>
          match rest with
          | [] => progress.use (.value name)
          | '=' :: value => progress.useWith (.value name) value
          | value => progress.useWith (.value name) value
      | some switch =>
          match progress.use switch with
          | .error failure => .error failure
          | .ok progress => progress.readShort rest

/-- Any other argument is the value that is waited for. -/
def readPlain (progress : Progress) (text : Text) : Except UsageError Progress :=
  match progress.pending with
  | some (name, none) => .ok { progress with pending := some (name, some text) }
  | _ => .error .unknownArgument

def readArgument (progress : Progress) (text : Text) : Except UsageError Progress :=
  match text with
  | '-' :: '-' :: rest => progress.readLong rest
  | '-' :: c :: rest => progress.readShort (c :: rest)
  | text => progress.readPlain text

/-- Reads all arguments. Two hyphens alone end the options, and there is nothing else. -/
def readAll (progress : Progress) : List Text → Except UsageError Progress
  | [] => progress.settle
  | text :: rest =>
      if text = ['-', '-'] then if rest.isEmpty then progress.settle else .error .unknownArgument
      else
        match progress.readArgument text with
        | .error failure => .error failure
        | .ok progress => progress.readAll rest

def value? (progress : Progress) (name : Name) : Option Text :=
  (progress.given.find? fun known => known.1 = name).map Prod.snd

def toArguments (progress : Progress) : Arguments where
  level := (progress.value? .level).getD "info".toList
  trusted := (progress.value? .trusted).getD []
  packages := (progress.value? .packages).getD []
  secrets := (progress.value? .secrets).getD []
  directory := (progress.value? .directory).getD "./".toList
  pattern := (progress.value? .pattern).getD Discover.defaultPattern
  format := if progress.value? .format = some "text".toList then .text else .json
  out := progress.value? .out
  failOnViolation := progress.failOnViolation

end Progress

def Arguments.parse (texts : List Text) : Except UsageError Arguments :=
  (Progress.start.readAll texts).map Progress.toArguments

/-- The items between commas, trimmed; empty items do not count. -/
def parseList (text : Text) : List Text :=
  ((Text.fields (· = ',') text).map Text.trim).filter fun item => !item.isEmpty

end CommandLine
end DockerfileAudit
