import TypedSheets.CommandLine.Arguments
import TypedSheets.Importer.Removal

/-!
# Running commands

`compile` and `remove` run an importer under a configuration file. `check`, `render` and `load` work
on one source and write no file. A command answers with a response, a JSON object on a line of its
own, or with a declaration; `Command.run` returns that output, what is reported, and why the command
failed if it did. A command may fail after it has answered.
-/

namespace TypedSheets

/-- Why a command fails. -/
inductive CommandError
  | config (error : ConfigError)
  | source (error : WorkbookError)
  /-- That many sheets are rejected. -/
  | sheetsRejected (count : Nat)
  /-- There is no schema to work with, since sheets are rejected. -/
  | rejected (messages : List String)
  | noSchema
  | load (error : LoadError)
  | generation (error : GenerationError)
  | importer (error : ImportError)
  | sourcesFailed (failed total : Nat)
  deriving DecidableEq, Repr

namespace CommandError

/-- The code that stands in front of the message. -/
def code : CommandError → String
  | .config _ => "TBLC_CLI_CONFIG_ERROR"
  | .source _ => "TBLC_CLI_SOURCE_ERROR"
  | .sheetsRejected _ | .rejected _ | .noSchema => "TBLC_CLI_SCHEMA_REJECTED"
  | .load _ => "TBLC_CLI_LOAD_FAILED"
  | .generation _ => "TBLC_CLI_CODEGEN_FAILED"
  | .importer _ | .sourcesFailed _ _ => "TBLC_CLI_IMPORT_FAILED"

/-- What went wrong, in words. -/
def message : CommandError → String
  | .config error => error.message
  | .source error => error.message
  | .sheetsRejected count => toString count ++ " sheet(s) rejected"
  | .rejected messages => "; ".intercalate messages
  | .noSchema => "No sheet declares a schema"
  | .load error => error.text
  | .generation error => error.code ++ ": " ++ error.message
  | .importer error => error.code ++ ": " ++ error.message
  | .sourcesFailed failed total =>
    toString failed ++ " of " ++ toString total ++ " sources failed"

/-- The error as a message of its own. -/
def text (e : CommandError) : String :=
  e.code ++ ": " ++ e.message

/-- The error of an importer as that of a command. -/
def ofImportError : ImportError → CommandError
  | .config error => .config error
  | .generation error => .generation error
  | error => .importer error

end CommandError

/-- What running a command comes to. -/
structure CommandRun where
  output : String := ""
  events : List Event := []
  failure : Option CommandError := none

namespace CommandRun

/-- A command that fails without output. -/
def failed (error : CommandError) (events : List Event := []) : CommandRun :=
  { events, failure := some error }

/-- The line of a response. -/
def response (data : Json) : String :=
  (Json.object [("data", data), ("status", .string "ok")]).sorted.render ++ "\n"

/-- A text with a line feed at its end. -/
def asLines (text : String) : String :=
  if text.toList.getLast? = some '\n' then text else text ++ "\n"

end CommandRun

/-! ## One source -/

/-- A source that has been read, with the names that it gives. -/
structure OpenSource where
  name : String
  entity : String
  workbook : Workbook

namespace OpenSource

/-- Reads a source, which has to be a JSON container. -/
def read {m : Type → Type} [Monad m] [FileStore m] (path : Path) (entityPrefix : String) :
    m (Except WorkbookError OpenSource) := do
  let ext := path.extension?.getD ""
  if !WorkbookReader.json.handles ext then return .error (.unsupported ext)
  return (← WorkbookReader.json.open path).map fun workbook =>
    { name := path.fileName?.getD ""
      entity := entityPrefix ++ path.stem?.getD ""
      workbook }

/-- The compilation of the source's workbook. -/
def compile (s : OpenSource) : Compilation :=
  .run s.name s.entity s.workbook

end OpenSource

/-- The schema of a compilation, if it has one. -/
def Compilation.schemaOrError (c : Compilation) : Except CommandError TableSchema :=
  if !c.success then .error (.rejected c.messages)
  else match c.schema with
    | none => .error .noSchema
    | some schema => .ok schema

/-- The records of an entity as the data of a response. -/
def recordsData (entity : String) (records : List Record) : Json :=
  .object [
    ("entity", .string entity),
    ("count", Json.ofNat records.length),
    ("records", .array (records.map Record.toJson))]

namespace CommandRun

/-- Reports on the schema of a source. -/
def check (s : OpenSource) : CommandRun :=
  let c := s.compile
  { output := response c.summary
    events := c.events
    failure := if c.success then none else some (.sheetsRejected c.rejections.length) }

/-- The records of a source. -/
def load (s : OpenSource) (policy : Policy) : CommandRun :=
  let c := s.compile
  match c.schemaOrError with
  | .error e => failed e c.events
  | .ok schema =>
    let loaded := (Loader.mk schema s.name policy).loadWorkbook s.workbook
    let events := c.events ++ loaded.events
    match loaded.result with
    | .error e => failed (.load e) events
    | .ok records => { output := response (recordsData s.entity records), events }

variable {m : Type → Type} [Monad m] [FileStore m]

/-- The declaration of a source. -/
def render (s : OpenSource) (language : Language) (template : Option Path) : m CommandRun := do
  let c := s.compile
  match c.schemaOrError with
  | .error e => return failed e c.events
  | .ok schema =>
    match ← templateOr template language.entityTemplate with
    | .error e => return failed (.generation e) c.events
    | .ok entityTemplate =>
      match { Generator.builtIn language with entityTemplate }.renderEntity schema s.entity with
      | .error e => return failed (.generation (.invalidIdentifier e)) c.events
      | .ok text => return { output := asLines text, events := c.events }

/-- Runs a command on one source. -/
def onSource (path : Path) (entityPrefix : String) (run : OpenSource → m CommandRun) :
    m CommandRun := do
  match ← OpenSource.read path entityPrefix with
  | .error e => return failed (.source e)
  | .ok s => run s

/-! ## Importers -/

/-- Runs a command with the importer of a configuration file. -/
def withImporter (config : Path) (run : Importer → m CommandRun) : m CommandRun := do
  match ← Config.load config with
  | (.error e, events) => return failed (.config e) events
  | (.ok c, events) =>
    match ← Importer.start c [] with
    | .error e => return failed (.ofImportError e) events
    | .ok imp =>
      let ran ← run imp
      return { ran with events := events ++ ran.events }

/-- Imports sources. It fails if one of them does. -/
def compile (imp : Importer) (sources : List Path) : m CommandRun := do
  let step ← imp.sourcesChanged sources
  match step.result with
  | .error e => return failed (.ofImportError e) step.events
  | .ok summary =>
    let failure :=
      if summary.failures = 0 then none
      else some (.sourcesFailed summary.failures summary.sources.length)
    return { output := response summary.toJson, events := step.events, failure }

/-- Removes the artifacts of sources. -/
def remove (imp : Importer) (sources : List Path) : m CommandRun := do
  let step ← imp.sourcesRemoved sources
  match step.result with
  | .error e => return failed (.ofImportError e) step.events
  | .ok summary => return { output := response summary.toJson, events := step.events }

end CommandRun

/-- Runs a command. -/
def Command.run {m : Type → Type} [Monad m] [FileStore m] : Command → m CommandRun
  | .compile config sources => CommandRun.withImporter config (CommandRun.compile · sources)
  | .remove config sources => CommandRun.withImporter config (CommandRun.remove · sources)
  | .check source entityPrefix =>
    CommandRun.onSource source entityPrefix fun s => pure (CommandRun.check s)
  | .render source language template entityPrefix =>
    CommandRun.onSource source entityPrefix (CommandRun.render · language template)
  | .load source policy entityPrefix =>
    CommandRun.onSource source entityPrefix fun s => pure (CommandRun.load s policy)

/-- How severe an event has to be to be logged. -/
def Invocation.threshold (i : Invocation) : Log.Severity :=
  if i.quiet then .warn else .info

end TypedSheets
