/-
  What happens during a run, in order.

  Every check of a value against a schema is entered and left, ids are registered, alternatives are
  rejected, defaults are written.  A journal is the list of such events; `Event.line?` gives the log
  record that belongs to one, and `appliedPaths` the paths that received defaults.
-/
import Conformance.Schema.Registry

namespace Conformance

/-- One event of a run. -/
inductive Event where
  /-- A check against a schema begins, at a place of the data and at a depth of nesting. -/
  | entered (schema : Node) (trail : Trail) (depth : Nat)
  /-- That check is over. -/
  | left (schema : Node) (result : Except Failure Unit)
  | registered (id : String)
  | idTaken (id : String)
  | unresolved (trail : Trail) (ref : String)
  | schemaIgnored (kind : String)
  | memberSchemaIgnored (trail : Trail) (key : Key)
  | alternativeRejected (trail : Trail) (description message : String)
  | notWritable (trail : Trail) (className : String)
  | defaultWritten (trail : Trail) (value : Value)

/-- How much a log record matters. -/
inductive Level where
  | debug
  | warning

/-- The word for a level. -/
def Level.label : Level → String
  | .debug => "DEBUG"
  | .warning => "WARNING"

/-- A record of the registry of ids. -/
def registryLine (message : String) : String :=
  Level.debug.label ++ " schemaguard.refmap: " ++ message

/-- A record of the checks. -/
def checkLine (level : Level) (message : String) : String :=
  level.label ++ " schemaguard.validator: " ++ message

/-- The log record of an event, if it has one. -/
def Event.line? : Event → Option String
  | .entered _ _ _ => none
  | .left _ _ => none
  | .registered id => some (registryLine ("Registered schema id " ++ quoted id))
  | .idTaken id =>
    some (registryLine ("Schema id " ++ quoted id ++ " already registered, keeping the first"))
  | .unresolved trail ref =>
    some (checkLine .warning
      (trail.text ++ ": unresolved $ref " ++ quoted ref ++ ", no constraint applied"))
  | .schemaIgnored kind =>
    some (checkLine .warning ("Ignoring non-object $schema of type " ++ kind))
  | .memberSchemaIgnored trail key =>
    some (checkLine .warning
      (trail.text ++ ": ignoring non-object $schema under " ++ key.repr))
  | .alternativeRejected trail description message =>
    some (checkLine .debug
      (trail.text ++ ": alternative " ++ description ++ " rejected: " ++ message))
  | .notWritable trail className =>
    some (checkLine .debug (trail.text ++ ": cannot write default into " ++ className))
  | .defaultWritten trail value =>
    some (checkLine .debug (trail.text ++ ": applied default " ++ value.repr))

/-- What entering a schema under an id has to tell: the id is new, or another schema has it. -/
def Registry.news (r : Registry) (id : String) (schema : Node) : List Event :=
  match r.find? id with
  | none => [.registered id]
  | some first => if first.origin = schema.origin then [] else [.idTaken id]

/-- The events of a run, in order. -/
abbrev Journal := List Event

namespace Journal

/-- The log records of a journal. -/
def lines (j : Journal) : List String := j.filterMap Event.line?

/-- The path at which an event writes a default. -/
def appliedPath? : Event → Option String
  | .defaultWritten trail _ => some trail.text
  | _ => none

/-- The paths that received defaults. -/
def appliedPaths (j : Journal) : List String := j.filterMap appliedPath?

theorem appliedPaths_append (a b : Journal) :
    appliedPaths (a ++ b) = appliedPaths a ++ appliedPaths b := by
  simp [appliedPaths]

end Journal

end Conformance
