import DockerfileAudit.CommandLine.Arguments
import DockerfileAudit.Log.Filter
import DockerfileAudit.Session

/-!
A run of the command line on a tree of files: what it prints, what it writes, what it logs and how
it ends. The environment may hold a filter for the log, which wins if it can be read; else the
option decides.
-/
set_option autoImplicit false

namespace DockerfileAudit
namespace CommandLine

structure InvalidLevel where
  level : Text
deriving DecidableEq

def InvalidLevel.message (failure : InvalidLevel) : Text :=
  "invalid log level: ".toList ++ failure.level

/-- The words of another logger for levels that this one has. -/
def otherNames (word : Text) : Text :=
  if word = "warning".toList then "warn".toList
  else if word = "fatal".toList || word = "panic".toList then "error".toList
  else word

/-- The filter that an option stands for. A word has to be a level; anything with an equals sign or
a comma is a filter already. -/
def levelDirective (level : Text) : Except InvalidLevel Text :=
  let level := Text.trim level
  if level.contains '=' || level.contains ',' then .ok level
  else
    let word := otherNames (level.map Text.asciiLower)
    if (Verbosity.ofText? word).isSome then .ok word else .error ⟨level⟩

/-- The filter from the environment or from the option. -/
def logFilter (environment : Option Text) (level : Text) :
    Except InvalidLevel (List Log.Directive) :=
  match environment.bind Log.filter? with
  | some directives => .ok directives
  | none =>
      match levelDirective level with
      | .error failure => .error failure
      | .ok directive =>
          match Log.filterOrErrors? directive with
          | some directives => .ok directives
          | none => .error ⟨level⟩

structure Outcome where
  exitCode : Nat
  output : Text
  failure : Option Text
  log : List Event
  files : FileSystem

def version : Text := "0.1.0".toList

/-- Arguments that ask for help or for the version are served; others that are not understood are
the caller's fault. -/
def ofUsage (system : FileSystem) (failure : UsageError) : Outcome :=
  match failure with
  | .displayHelp => ⟨0, [], none, [], system⟩
  | .displayVersion => ⟨0, Report.toolName ++ [' '] ++ version ++ ['\n'], none, [], system⟩
  | _ => ⟨2, [], none, [], system⟩

def failed (system : FileSystem) (log : List Event) (message : Text) : Outcome :=
  ⟨1, [], some ("Error: ".toList ++ message.takeWhile (· ≠ '\n')), log, system⟩

def config (arguments : Arguments) : RuleConfig :=
  RuleConfig.ofLists (parseList arguments.trusted) (parseList arguments.packages)
    (parseList arguments.secrets)

def paths (system : FileSystem) (arguments : Arguments) : List Text :=
  Discover.discover system arguments.directory arguments.pattern

def report (system : FileSystem) (arguments : Arguments) : Report :=
  auditPaths system (paths system arguments) (config arguments)

def render (arguments : Arguments) (report : Report) : Text :=
  match arguments.format with
  | .json => report.toJson ++ ['\n']
  | .text => report.toText version

def events (system : FileSystem) (arguments : Arguments) : List Event :=
  [.trustedImages (parseList arguments.trusted),
    .disallowedPackages (parseList arguments.packages),
    .secretPatterns (parseList arguments.secrets)] ++
  Discover.events system arguments.directory arguments.pattern ++
  [.discovered arguments.directory (paths system arguments).length] ++
  auditEvents system (paths system arguments) (config arguments)

def audit (system : FileSystem) (arguments : Arguments) (filter : List Log.Directive) : Outcome :=
  let report := report system arguments
  let output := render arguments report
  let log := (events system arguments).filter (Log.isWritten filter)
  let exitCode := if arguments.failOnViolation && report.hasViolations then 1 else 0
  match arguments.out with
  | none => ⟨exitCode, output, none, log, system⟩
  | some path =>
      match system.write path (Utf8.encode output) with
      | .ok written => ⟨exitCode, [], none, log, written⟩
      | .error failure => failed system log failure.message

def run (system : FileSystem) (environment : Option Text) (arguments : List Text) : Outcome :=
  match Arguments.parse arguments with
  | .error failure => ofUsage system failure
  | .ok arguments =>
      match logFilter environment arguments.level with
      | .error failure => failed system [] failure.message
      | .ok filter => audit system arguments filter

end CommandLine
end DockerfileAudit
