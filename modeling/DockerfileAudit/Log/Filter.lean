import DockerfileAudit.Log.Event

/-!
Which events are written. A filter is a list of directives; for an event the most specific directive
that is about it decides.
-/
set_option autoImplicit false

namespace DockerfileAudit

/-- A limit on the rank of events; zero lets nothing through. -/
abbrev Verbosity := Nat

namespace Verbosity

/-- A number as a count is written: digits, with a plus sign if one likes. -/
def number? (text : Text) : Option Nat :=
  let digits :=
    match text with
    | '+' :: rest => rest
    | other => other
  if digits.isEmpty || !digits.all Text.isDigit then none else some (Text.toNat digits)

/-- A limit by its name or its number. No name at all stands for errors only. -/
def ofText? (text : Text) : Option Verbosity :=
  let named :=
    if text.isEmpty then some 1
    else
      (["off", "error", "warn", "info", "debug", "trace"].findIdx? fun name =>
        Text.sameAscii text name.toList)
  match number? text with
  | some n => if n ≤ 5 then some n else none
  | none => named

end Verbosity

namespace Log

/-- What a directive is about, and up to which rank it lets events through. A directive that names
a span, or the value of a field, is about no event here, since events stand in no span. -/
structure Directive where
  target : Option Text
  span : Option Text
  fields : List Text
  level : Verbosity

namespace Directive

inductive Stage where
  | start
  | levelOrTarget (start : Nat)
  | span (start : Nat)
  | field (start : Nat)
  | fields
  | target
  | level (start : Nat)

def everything : Directive := ⟨none, none, [], 5⟩

def isWordChar (c : Char) : Bool :=
  c ∈ ['-', ':', '_'] || Property.alphabetic.codes.contains c.toNat ||
    Property.hasCategory ["nd", "nl", "no"] c

def slice (text : Text) (start stop : Nat) : Text := (text.drop start).take (stop - start)

def addField (directive : Directive) (field : Text) : Option Directive :=
  if field.isEmpty then none else some { directive with fields := directive.fields ++ [field] }

def step (text : Text) (i : Nat) (c : Char) (stage : Stage) (directive : Directive) :
    Option (Stage × Directive) :=
  match stage with
  | .start =>
      if c = '[' then some (.span (i + 1), directive)
      else if isWordChar c then some (.levelOrTarget i, directive)
      else none
  | .levelOrTarget start =>
      let named := { directive with target := some (slice text start i) }
      if c = '=' then some (.level (i + 1), named)
      else if c = '[' then some (.span (i + 1), named)
      else some (stage, directive)
  | .span start =>
      let span := slice text start i
      if c = ']' then some (.target, { directive with span := some span })
      else if c = '{' then
        some (.field (i + 1), { directive with span := if span.isEmpty then none else some span })
      else some (stage, directive)
  | .field start =>
      if c = '}' then (directive.addField (slice text start i)).map fun d => (.fields, d)
      else some (stage, directive)
  | .fields => if c = ']' then some (.target, directive) else none
  | .target => if c = '=' then some (.level (i + 1), directive) else none
  | .level _ => some (stage, directive)

def steps (text : Text) : (i : Nat) → Text → Stage → Directive → Option (Stage × Directive)
  | _, [], stage, directive => some (stage, directive)
  | i, c :: rest, stage, directive =>
      match step text i c stage directive with
      | some (stage, directive) => steps text (i + 1) rest stage directive
      | none => none

/-- What has been read when the directive ends. A word alone is a limit if it names one, else a
target without limit. -/
def finish (text : Text) (stage : Stage) (directive : Directive) : Option Directive :=
  match stage with
  | .levelOrTarget start =>
      let word := text.drop start
      match Verbosity.ofText? word with
      | some level => some { directive with level := level }
      | none => some { directive with target := some word }
  | .level start =>
      let word := text.drop start
      if word.isEmpty then some directive
      else (Verbosity.ofText? word).map fun level => { directive with level := level }
  | .target => some directive
  | _ => none

/-- Reads a directive. Blanks around it are not read, but positions are those in the whole text. -/
def ofText? (text : Text) : Option Directive :=
  match steps text 0 (Text.trim text) .start everything with
  | some (stage, directive) => finish text stage directive
  | none => none

def isAbout (directive : Directive) (event : Event) : Bool :=
  directive.span.isNone && !directive.fields.any (fun field => field.contains '=') &&
    (match directive.target with
      | none => true
      | some target => Text.startsWith event.target target) &&
    directive.fields.all fun field => event.fieldNames.contains field

/-- Whether the second directive is at least as specific: a longer target, then more fields. Of
two that are alike the later one counts. -/
def yieldsTo (first second : Directive) : Bool :=
  let size (directive : Directive) : Nat :=
    match directive.target with
    | none => 0
    | some target => target.length + 1
  if size first ≠ size second then size first < size second
  else if first.fields.length ≠ second.fields.length then
    first.fields.length < second.fields.length
  else first.fields = second.fields || first.fields < second.fields

end Directive

def decisive (directives : List Directive) (event : Event) : Option Directive :=
  (directives.filter fun directive => directive.isAbout event).foldl
    (fun best directive =>
      match best with
      | none => some directive
      | some best => if best.yieldsTo directive then some directive else some best)
    none

def isWritten (directives : List Directive) (event : Event) : Bool :=
  match decisive directives event with
  | some directive => event.severity.rank ≤ directive.level
  | none => false

def filter? (text : Text) : Option (List Directive) :=
  ((Text.fields (· = ',') text).filter fun part => !part.isEmpty).mapM Directive.ofText?

def filterOrErrors? (text : Text) : Option (List Directive) :=
  (filter? text).map fun directives =>
    if directives.isEmpty then [{ Directive.everything with level := 1 }] else directives

end Log
end DockerfileAudit
