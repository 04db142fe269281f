import TypedSheets.Declaration.Compile
import TypedSheets.Descriptor.Marker
import TypedSheets.Importer.Outcome

/-!
# Importers

An `Importer` holds a configuration, a generator, the registry of the descriptors compiled so far
and the readers of its sources. `Importer.start` makes one whose registry is rebuilt from the
declarations in the entity directory; `reload` rebuilds it again. Two declarations of one entity are
told apart by the names of their files, of which the greater wins.
-/

namespace TypedSheets

variable {m : Type → Type} [Monad m] [FileStore m]

/-! ## Files -/

/-- Reads a template. -/
def loadTemplate (path : Path) : m (Except GenerationError String) := do
  if !(← FileStore.isFile path) then return .error (.missingTemplate path)
  return (← FileStore.read path).mapError (.file path)

/-- The template in a file, or the built-in one if no file is given. -/
def templateOr (path : Option Path) (builtIn : String) : m (Except GenerationError String) :=
  match path with
  | none => pure (.ok builtIn)
  | some path => loadTemplate path

/-- Writes a file into a directory that has to be there already. -/
def writeInto (dir : Path) (name text : String) : m (Except GenerationError Path) := do
  if !(← FileStore.isDirectory dir) then return .error (.missingDirectory dir)
  let path := dir.join name
  match ← FileStore.write path text with
  | .ok () => return .ok path
  | .error fault => return .error (.file path fault)

/-- The texts of those of the files in a directory that hold text. -/
def readTexts (dir : Path) : List String → m (List String)
  | [] => pure []
  | name :: rest => do
    match ← FileStore.read (dir.join name) with
    | .ok text => return text :: (← readTexts dir rest)
    | .error _ => readTexts dir rest

/-- Names in ascending order. -/
def sortNames (names : List String) : List String :=
  names.mergeSort fun a b => decide (¬ b < a)

namespace Registry

/-- Puts the descriptors in texts into the registry one after the other, and counts them. -/
def addTexts (r : Registry) : List String → Registry × Nat
  | [] => (r, 0)
  | text :: rest =>
    match Descriptor.extract? text with
    | none => r.addTexts rest
    | some d =>
      let (r, n) := (r.put d).addTexts rest
      (r, n + 1)

/-- Adds the descriptors of the declarations in a directory, and counts them. -/
def loadDirectory (r : Registry) (dir : Path) : m (Except ImportError (Registry × Nat)) := do
  match ← FileStore.files dir with
  | .error fault => return .error (.registry dir fault)
  | .ok names => return .ok (r.addTexts (← readTexts dir (sortNames names)))

end Registry

/-! ## Importers -/

/-- A configuration at work: how declarations are rendered, what is registered and who reads
sources. -/
structure Importer where
  config : Config
  generator : Generator
  registry : Registry
  readers : List WorkbookReader := [.json]

/-- The first of some directories that is not there. -/
def firstMissing? : List Path → m (Option Path)
  | [] => pure none
  | dir :: rest => do
    if ← FileStore.isDirectory dir then firstMissing? rest else return some dir

/-- Looks for the output directories of a configuration. -/
def Config.checkOutputDirs (c : Config) : m (Except GenerationError Unit) := do
  match ← firstMissing? c.outputDirs with
  | none => return .ok ()
  | some dir => return .error (.missingDirectory dir)

/-- The generator of a configuration. -/
def Config.generator (c : Config) : m (Except GenerationError Generator) := do
  match ← templateOr c.entityTemplate c.language.entityTemplate with
  | .error e => return .error e
  | .ok entityTemplate =>
    match ← templateOr c.containerTemplate c.language.containerTemplate with
    | .error e => return .error e
    | .ok containerTemplate => return .ok ⟨c.language, entityTemplate, containerTemplate⟩

namespace Importer

/-- An importer for a configuration, with readers besides the one of the JSON container. -/
def start (c : Config) (readers : List WorkbookReader) : m (Except ImportError Importer) := do
  match c.validate with
  | .error e => return .error (.config (.invalid e))
  | .ok () =>
    match ← c.checkOutputDirs with
    | .error e => return .error (.generation e)
    | .ok () =>
      match ← c.generator with
      | .error e => return .error (.generation e)
      | .ok g =>
        match ← Registry.empty.loadDirectory c.entityDir with
        | .error e => return .error e
        | .ok (registry, _) => return .ok ⟨c, g, registry, .json :: readers⟩

/-- What an operation on an importer returns, with the importer after it and what it reports. -/
structure Step (α : Type) where
  importer : Importer
  events : List Event
  result : Except ImportError α

/-- Empties the registry and rebuilds it from the entity directory. Returns how many descriptors
there are in the directory. -/
def reload (imp : Importer) : m (Step Nat) := do
  let events := [imp.registry.flushEvent]
  match ← Registry.empty.loadDirectory imp.config.entityDir with
  | .error e => return ⟨{ imp with registry := .empty }, events, .error e⟩
  | .ok (registry, n) => return ⟨{ imp with registry }, events, .ok n⟩

end Importer

end TypedSheets
