import TypedSheets.Importer.Basic

/-!
# Importing sources

A source that an importer handles has a stem, which names its entity and its container, and a reader
(`Importer.source?`). What the import of its workbook calls for is settled before any file is
written (`Importer.plan`): nothing but a status, new declarations, or only new records.
`importSource` carries the plan out: first the declarations, then the records, loaded under the
registered descriptor.

An error in writing a file stops the run; every other failure is the status of its source. When a
declaration cannot be written, the registry already holds its descriptor.
-/

namespace TypedSheets

/-- A source that an importer can open. -/
structure Source where
  path : Path
  /-- The name of the file, for messages. -/
  name : String
  entity : String
  container : String
  reader : WorkbookReader

/-- The outcome of a source that has a status. -/
def Source.outcome (s : Source) (status : SourceStatus) (written : List Path := []) :
    SourceOutcome :=
  ⟨s.path, some s.entity, status, written⟩

/-- What importing a workbook calls for. -/
inductive Decision
  /-- Nothing is written. -/
  | stop (status : SourceStatus)
  /-- The declarations are current. -/
  | keep
  | declare (entityText containerText : String)

/-- What importing a workbook calls for, with the registry from then on and what is reported. -/
structure Plan where
  registry : Registry
  events : List Event
  decision : Decision

/-- What is reported of a path that is no source. -/
def ignoredEvent (path : Path) : Event :=
  ⟨.sourceIgnored, [("source", path.text)]⟩

namespace Importer

/-- Names of editors' lock files start with this. -/
def lockMark : List Char := ['~', '$']

/-- The stem of a source that is handled and no lock file. -/
def sourceStem? (imp : Importer) (path : Path) : Option String :=
  if imp.config.handles path then path.stem?.filter fun stem => !lockMark.isPrefixOf stem.toList
  else none

/-- The source at a path, if it is handled and there is a reader for it. -/
def source? (imp : Importer) (path : Path) : Option Source := do
  let stem ← imp.sourceStem? path
  let reader ← readerFor? imp.readers (← path.extension?)
  return {
    path, reader
    name := path.fileName?.getD stem
    entity := imp.config.entityName stem
    container := imp.config.containerName stem }

/-- The file with the declaration of an entity. -/
def entityPath (imp : Importer) (entity : String) : Path :=
  imp.generator.declarationPath imp.config.entityDir entity

/-- The file with the declaration of a container. -/
def containerPath (imp : Importer) (container : String) : Path :=
  imp.generator.declarationPath imp.config.containerDir container

/-- The name of the file with the records of a container. -/
def dataName (container : String) : String :=
  container ++ ".json"

/-- The file with the records of a container. -/
def dataPath (imp : Importer) (container : String) : Path :=
  imp.config.dataDir.join (dataName container)

/-! ## Planning -/

/-- What follows when a name cannot be declared. -/
def generationFailed (s : Source) (e : InvalidIdentifier) : List Event × Decision :=
  ([⟨.compileFailed, [("entity", s.entity), ("error", e.message), ("source", s.name)]⟩],
    .stop (.generationFailed e.message))

/-- What compiling a workbook calls for. -/
def planCompiled (imp : Importer) (s : Source) (workbook : Workbook) : Plan :=
  let d := imp.generator.compile imp.registry s.name s.entity workbook
  match d.result with
  | .error e =>
    let (events, decision) := generationFailed s e
    ⟨d.registry, d.events ++ events, decision⟩
  | .ok (c, text) =>
    if !c.success then ⟨d.registry, d.events, .stop (.rejected c.messages)⟩
    else match text with
      | none => ⟨d.registry, d.events, .stop .empty⟩
      | some entityText =>
        match imp.generator.renderContainer s.container s.entity s.path with
        | .error e =>
          let (events, decision) := generationFailed s e
          ⟨d.registry, d.events ++ events, decision⟩
        | .ok containerText => ⟨d.registry, d.events, .declare entityText containerText⟩

/-- What importing a workbook calls for. -/
def plan (imp : Importer) (s : Source) (workbook : Workbook) : Plan :=
  if needsCompile (imp.registry.get? s.entity) workbook then imp.planCompiled s workbook
  else ⟨imp.registry,
    [⟨.compileSkipped, [("entity", s.entity), ("source", s.name)]⟩], .keep⟩

/-! ## Writing -/

variable {m : Type → Type} [Monad m] [FileStore m]

/-- What is reported when a declaration has been written. -/
def writtenEvent (path : Path) (type : String) : Event :=
  ⟨.declarationWritten, [("path", path.text), ("type", type)]⟩

/-- Writes the declaration of the entity, then that of the container. -/
def writeDeclarations (imp : Importer) (s : Source) (entityText containerText : String) :
    m (List Event × Except GenerationError (List Path)) := do
  match ← writeInto imp.config.entityDir (imp.generator.fileName s.entity) entityText with
  | .error e => return ([], .error e)
  | .ok entityFile =>
    let entityEvent := writtenEvent entityFile s.entity
    match ← writeInto imp.config.containerDir (imp.generator.fileName s.container)
        containerText with
    | .error e => return ([entityEvent], .error e)
    | .ok containerFile =>
      return ([entityEvent, writtenEvent containerFile s.container],
        .ok [entityFile, containerFile])

/-- The text of a file of records. -/
def recordsText (records : List Record) : String :=
  (Json.array (records.map Record.toJson)).pretty

/-- What is reported when the records of a source have been written. -/
def completeEvents (imp : Importer) (s : Source) (records : Nat) : List Event :=
  if imp.config.logOnImport then
    [⟨.loadComplete, [("entity", s.entity), ("records", toString records), ("source", s.name)]⟩]
  else []

/-- Loads the records of a workbook and writes them. -/
def writeRecords (imp : Importer) (s : Source) (workbook : Workbook) (status : Nat → SourceStatus)
    (written : List Path) : m (Step SourceOutcome) := do
  let loaded := imp.registry.load s.entity s.name workbook imp.config.policy
  match loaded.result with
  | .error e => return ⟨imp, loaded.events, .ok (s.outcome (.loadFailed e.text) written)⟩
  | .ok records =>
    match ← writeInto imp.config.dataDir (dataName s.container) (recordsText records) with
    | .error e => return ⟨imp, loaded.events, .error (.generation e)⟩
    | .ok file =>
      let n := records.length
      return ⟨imp, loaded.events ++ imp.completeEvents s n,
        .ok (s.outcome (status n) (written ++ [file]))⟩

/-- The step with events reported before it. -/
def Step.after {α : Type} (events : List Event) (step : Step α) : Step α :=
  { step with events := events ++ step.events }

/-- Imports the workbook of a source. -/
def importWorkbook (imp : Importer) (s : Source) (workbook : Workbook) :
    m (Step SourceOutcome) := do
  let plan := imp.plan s workbook
  let planned := { imp with registry := plan.registry }
  match plan.decision with
  | .stop status => return ⟨planned, plan.events, .ok (s.outcome status)⟩
  | .keep => return (← planned.writeRecords s workbook .unchanged []).after plan.events
  | .declare entityText containerText =>
    match ← planned.writeDeclarations s entityText containerText with
    | (events, .error e) => return ⟨planned, plan.events ++ events, .error (.generation e)⟩
    | (events, .ok written) =>
      return (← planned.writeRecords s workbook .compiled written).after (plan.events ++ events)

/-- Imports the source at a path. -/
def importSource (imp : Importer) (path : Path) : m (Step SourceOutcome) := do
  match imp.source? path with
  | none => return ⟨imp, [ignoredEvent path], .ok ⟨path, none, .ignored, []⟩⟩
  | some s =>
    match ← s.reader.open path with
    | .error e => return ⟨imp, [], .ok (s.outcome (.unreadable e.message))⟩
    | .ok workbook => imp.importWorkbook s workbook

/-- Imports the sources at some paths in order, up to the first error. -/
def importAll (imp : Importer) : List Path → m (Step (List SourceOutcome))
  | [] => pure ⟨imp, [], .ok []⟩
  | path :: rest => do
    let first ← imp.importSource path
    match first.result with
    | .error e => return ⟨first.importer, first.events, .error e⟩
    | .ok outcome =>
      let others ← first.importer.importAll rest
      return ⟨others.importer, first.events ++ others.events, others.result.map (outcome :: ·)⟩

/-- Imports sources that have changed. -/
def sourcesChanged (imp : Importer) (paths : List Path) : m (Step ImportSummary) := do
  let step ← imp.importAll paths
  return ⟨step.importer, step.events, step.result.map ImportSummary.mk⟩

end Importer

end TypedSheets
