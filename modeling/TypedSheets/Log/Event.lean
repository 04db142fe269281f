import TypedSheets.Log.Line

/-!
# Events

Every step of compiling, loading and importing reports what it does as an `Event`, of a fixed kind
and with named fields. Failures are logged as warnings, everything else as information; `lines`
keeps what is at least as severe as a threshold.
-/

namespace TypedSheets

/-- The kind of an event. -/
inductive EventKind
  | configLoaded
  | compileStart
  | compileComplete
  | compileSkipped
  | compileFailed
  | sheetRejected
  | declarationWritten
  | loadComplete
  | loadAborted
  | rowSkipped
  | registryFlushed
  | artifactsRemoved
  | sourceIgnored
  deriving DecidableEq, Repr

namespace EventKind

/-- The kinds there are. -/
def all : List EventKind :=
  [.configLoaded, .compileStart, .compileComplete, .compileSkipped, .compileFailed, .sheetRejected,
    .declarationWritten, .loadComplete, .loadAborted, .rowSkipped, .registryFlushed,
    .artifactsRemoved, .sourceIgnored]

/-- The name of a kind in a log line. -/
def name : EventKind → String
  | .configLoaded => "CONFIG_LOADED"
  | .compileStart => "COMPILE_BEGIN"
  | .compileComplete => "COMPILE_COMPLETE"
  | .compileSkipped => "COMPILE_SKIPPED"
  | .compileFailed => "COMPILE_FAILED"
  | .sheetRejected => "SHEET_REJECTED"
  | .declarationWritten => "DECLARATION_WRITTEN"
  | .loadComplete => "LOAD_COMPLETE"
  | .loadAborted => "LOAD_ABORTED"
  | .rowSkipped => "ROW_SKIPPED"
  | .registryFlushed => "REGISTRY_FLUSHED"
  | .artifactsRemoved => "ARTIFACTS_REMOVED"
  | .sourceIgnored => "SOURCE_IGNORED"

/-- Whether an event reports that something has failed. -/
def isFailure : EventKind → Bool
  | .compileFailed | .sheetRejected | .loadAborted => true
  | _ => false

/-- How severe an event is. -/
def severity (k : EventKind) : Log.Severity :=
  if k.isFailure then .warn else .info

end EventKind

/-- Something that has happened, with named fields. -/
structure Event where
  kind : EventKind
  fields : List (String × String)
  deriving DecidableEq, Repr

namespace Event

/-- The log line of an event. -/
def line (e : Event) : String :=
  Log.line e.kind.severity e.kind.name e.fields

/-- The lines of the events that are at least as severe as a threshold. -/
def lines (threshold : Log.Severity) (events : List Event) : List String :=
  (events.filter fun e => threshold.rank ≤ e.kind.severity.rank).map line

end Event

end TypedSheets
