import DockerfileAudit.Dockerfile.Document
import DockerfileAudit.Log.Event
import DockerfileAudit.Tree.Path

/-!
An audit in progress: files are registered, lists are configured, and the rules are checked as often
as wanted. Only the last report is kept.
-/
set_option autoImplicit false

namespace DockerfileAudit

inductive FileError where
  | unreadable (path : Text) (failure : ReadError)
  | unparsable (path : Text) (failure : ParseError)
deriving DecidableEq

namespace FileError

def message : FileError → Text
  | .unreadable path failure =>
      "failed to read dockerfile: ".toList ++ path ++ ": ".toList ++ failure.message
  | .unparsable path failure =>
      "failed to parse dockerfile: ".toList ++ path ++ ": ".toList ++ failure.message

end FileError

def FileSystem.statements (system : FileSystem) (path : Text) :
    Except FileError (List Statement) :=
  match system.read path with
  | .error failure => .error (.unreadable path failure)
  | .ok text =>
      match Document.parse text with
      | .error failure => .error (.unparsable path failure)
      | .ok statements => .ok statements

structure Session where
  files : Files
  config : RuleConfig
  report : Report

namespace Session

def new : Session := ⟨Files.empty, RuleConfig.empty, Report.empty⟩

def register (session : Session) (file : Text) (statements : List Statement) : Session :=
  { session with files := session.files.register file statements }

/-- Reads, parses and registers a file under its path; a failure changes nothing. -/
def parseFile (session : Session) (system : FileSystem) (path : Text) : Except FileError Session :=
  (system.statements path).map (session.register path)

def tryFile (session : Session) (system : FileSystem) (path : Text) : Session :=
  match session.parseFile system path with
  | .ok session => session
  | .error _ => session

def configure (session : Session) (config : RuleConfig) : Session :=
  { session with config := config }

def evaluate (session : Session) : Session :=
  { session with report := DockerfileAudit.evaluate session.files session.config }

def fileSize (session : Session) (file : Text) : Nat :=
  match session.files.find? file with
  | some set => set.size
  | none => 0

/-- The events of registering, before it is done. -/
def registerEvents (session : Session) (file : Text) (statements : List Statement) : List Event :=
  let before := session.fileSize file
  let total := (session.register file statements).fileSize file
  Log.ofDropped file statements ++ [.registered file (total - before) total]

def parseFileEvents (session : Session) (system : FileSystem) (path : Text) : List Event :=
  match system.statements path with
  | .ok statements => session.registerEvents path statements
  | .error _ => []

def evaluateEvents (session : Session) : List Event :=
  let report := session.evaluate.report
  Log.ofEvaluation session.files session.config ++
    [.auditComplete session.files.size report.findings.length report.violationCount]

def tryFileEvents (session : Session) (system : FileSystem) (path : Text) : List Event :=
  match system.statements path with
  | .ok statements => session.registerEvents path statements
  | .error failure => [.fileSkipped path failure.message]

def tryFilesEvents (system : FileSystem) : Session → List Text → List Event
  | _, [] => []
  | session, path :: rest =>
      session.tryFileEvents system path ++ tryFilesEvents system (session.tryFile system path) rest

end Session

def auditSession (system : FileSystem) (paths : List Text) (config : RuleConfig) : Session :=
  paths.foldl (fun session path => session.tryFile system path) (Session.new.configure config)

def auditPaths (system : FileSystem) (paths : List Text) (config : RuleConfig) : Report :=
  (auditSession system paths config).evaluate.report

def auditEvents (system : FileSystem) (paths : List Text) (config : RuleConfig) : List Event :=
  Session.tryFilesEvents system (Session.new.configure config) paths ++
    (auditSession system paths config).evaluateEvents

end DockerfileAudit
