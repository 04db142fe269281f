import TypedSheets.Importer.Source

/-!
# Removing the artifacts of sources

When sources are gone, `sourcesRemoved` deletes what was generated for them: the two declarations
and the file of records. What is not there is passed over; a file that cannot be deleted stops the
run. The registry stays as it is until the next reload.
-/

namespace TypedSheets

/-- The artifacts deleted for some sources. -/
structure RemovalSummary where
  removed : List Path
  deriving DecidableEq, Repr

/-- The summary in a response. -/
def RemovalSummary.toJson (s : RemovalSummary) : Json :=
  .object [("removed", Json.ofStrings (s.removed.map (·.text)))]

namespace Importer

variable {m : Type → Type} [Monad m] [FileStore m]

/-- The files generated for the source with a stem. -/
def artifacts (imp : Importer) (stem : String) : List Path :=
  let container := imp.config.containerName stem
  [imp.entityPath (imp.config.entityName stem), imp.containerPath container, imp.dataPath container]

/-- Removes files, and returns those that were there. -/
def removeFiles : List Path → m (Except ImportError (List Path))
  | [] => pure (.ok [])
  | path :: rest => do
    match ← FileStore.remove path with
    | .ok () => return (← removeFiles rest).map (path :: ·)
    | .error .notFound => removeFiles rest
    | .error fault => return .error (.remove path fault)

/-- What is reported when the artifacts of a source are removed. -/
def removedEvent (imp : Importer) (stem : String) (removed : Nat) : Event :=
  ⟨.artifactsRemoved, [("entity", imp.config.entityName stem), ("removed", toString removed)]⟩

/-- Removes the artifacts of sources, and returns them with what is reported. -/
def removeAll (imp : Importer) : List Path → m (List Event × Except ImportError (List Path))
  | [] => pure ([], .ok [])
  | path :: rest =>
    match imp.sourceStem? path with
    | none => imp.removeAll rest
    | some stem => do
      match ← removeFiles (imp.artifacts stem) with
      | .error e => return ([], .error e)
      | .ok removed =>
        let (events, others) ← imp.removeAll rest
        return (imp.removedEvent stem removed.length :: events, others.map (removed ++ ·))

/-- Removes the artifacts of sources that are gone. -/
def sourcesRemoved (imp : Importer) (paths : List Path) : m (Step RemovalSummary) := do
  let (events, removed) ← imp.removeAll paths
  return ⟨imp, events, removed.map RemovalSummary.mk⟩

end Importer

end TypedSheets
