import TypedSheets.Declaration.Identifier
import TypedSheets.Declaration.Language
import TypedSheets.Files.FileStore
import TypedSheets.Json.Reader
import TypedSheets.Log.Event
import TypedSheets.Record.Binding
import TypedSheets.Record.Load

/-!
# Configurations

A `Config` says where an importer writes and which sources it handles. It is stored as a JSON record
in which all but the three output directories have a default (`ofJson?`), and is checked by
`validate`.
-/

namespace TypedSheets

/-- Where an importer writes, which sources it handles and how. -/
structure Config where
  entityDir : Path
  containerDir : Path
  dataDir : Path
  language : Language := .csharp
  /-- A file with the template of entity declarations, in place of the built-in one. -/
  entityTemplate : Option Path := none
  containerTemplate : Option Path := none
  entityPrefix : String := "Entity_"
  containerPrefix : String := "Scriptable_"
  /-- Extensions of the sources that are handled, without the dot. -/
  sourceExtensions : List String := ["json"]
  /-- Whether every source imported is reported. -/
  logOnImport : Bool := true
  policy : Policy := .abort
  deriving DecidableEq, Repr

/-- Why a configuration is invalid. -/
inductive ConfigFault
  | badPrefix (field value : String)
  | samePrefix
  | noExtensions
  | badExtension (extension : String)
  deriving DecidableEq, Repr

/-- The fault in words. -/
def ConfigFault.message : ConfigFault → String
  | .badPrefix field value => field ++ " '" ++ value ++ "' must be a non-empty identifier"
  | .samePrefix => "entity_prefix and container_prefix must differ"
  | .noExtensions => "source_extensions must not be empty"
  | .badExtension ext => "source extension '" ++ ext ++ "' must be given without a dot"

/-- Why no configuration is loaded. -/
inductive ConfigError
  | read (path : Path) (fault : FileFault)
  | parse
  | invalid (fault : ConfigFault)
  deriving DecidableEq, Repr

/-- The error in words. -/
def ConfigError.message : ConfigError → String
  | .read path fault => "Failed to read config '" ++ path.text ++ "': " ++ fault.message
  | .parse => "Invalid config JSON: " ++ Json.faultText
  | .invalid fault => "Invalid config: " ++ fault.message

/-- The name of a policy in a configuration. -/
def Policy.name : Policy → String
  | .abort => "abort"
  | .skipRow => "skip_row"

/-- The policy with a name. -/
def Policy.ofName? (name : String) : Option Policy :=
  [Policy.abort, .skipRow].find? (·.name == name)

/-- The language with a name. -/
def Language.ofName? (name : String) : Option Language :=
  [Language.csharp, .rust].find? (·.name == name)

namespace Config

/-! ## JSON -/

/-- The keys of a configuration, in the order in which it is written. -/
def fieldNames : List String :=
  ["entity_dir", "container_dir", "data_dir", "language", "entity_template", "container_template",
    "entity_prefix", "container_prefix", "source_extensions", "log_on_import", "on_coercion_error"]

/-- The value of a field that may be missing. -/
def optional? {α : Type} (read : Json → Option α) (default : α) : Option Json → Option α
  | none => some default
  | some j => read j

/-- A path as a string. -/
def path? (j : Json) : Option Path :=
  j.str?.map Path.mk

/-- A path, or null for none. -/
def pathOrNull? : Json → Option (Option Path)
  | .null => some none
  | j => (path? j).map some

/-- A list of strings. -/
def strings? (j : Json) : Option (List String) :=
  j.array?.bind fun items => items.mapM Json.str?

/-- The configuration that a document stores. It may be invalid. -/
def ofJson? (j : Json) : Option Config := do
  let field ← j.record? fieldNames
  let entityDir ← path? (← field "entity_dir")
  let containerDir ← path? (← field "container_dir")
  let dataDir ← path? (← field "data_dir")
  let language ← optional? (fun j => j.variant?.bind Language.ofName?) .csharp (field "language")
  let entityTemplate ← optional? pathOrNull? none (field "entity_template")
  let containerTemplate ← optional? pathOrNull? none (field "container_template")
  let entityPrefix ← optional? Json.str? "Entity_" (field "entity_prefix")
  let containerPrefix ← optional? Json.str? "Scriptable_" (field "container_prefix")
  let sourceExtensions ← optional? strings? ["json"] (field "source_extensions")
  let logOnImport ← optional? Json.bool? true (field "log_on_import")
  let policy ← optional? (fun j => j.variant?.bind Policy.ofName?) .abort
    (field "on_coercion_error")
  return {
    entityDir, containerDir, dataDir, language, entityTemplate, containerTemplate, entityPrefix,
    containerPrefix, sourceExtensions, logOnImport, policy }

/-- A template's path, or null where the built-in one is used. -/
def templateJson : Option Path → Json
  | none => .null
  | some p => .string p.text

/-- The document that stores a configuration. -/
def toJson (c : Config) : Json :=
  .object [
    ("entity_dir", .string c.entityDir.text),
    ("container_dir", .string c.containerDir.text),
    ("data_dir", .string c.dataDir.text),
    ("language", .string c.language.name),
    ("entity_template", templateJson c.entityTemplate),
    ("container_template", templateJson c.containerTemplate),
    ("entity_prefix", .string c.entityPrefix),
    ("container_prefix", .string c.containerPrefix),
    ("source_extensions", Json.ofStrings c.sourceExtensions),
    ("log_on_import", .bool c.logOnImport),
    ("on_coercion_error", .string c.policy.name)]

/-! ## Validity -/

/-- Checks extensions from left to right. -/
def checkExtensions : List String → Except ConfigFault Unit
  | [] => .ok ()
  | ext :: rest =>
    if ext = "" ∨ ext.toList.head? = some '.' then .error (.badExtension ext)
    else checkExtensions rest

/-- Checks the two prefixes, then the extensions. -/
def validate (c : Config) : Except ConfigFault Unit :=
  if !isIdentifier c.entityPrefix then .error (.badPrefix "entity_prefix" c.entityPrefix)
  else if !isIdentifier c.containerPrefix then
    .error (.badPrefix "container_prefix" c.containerPrefix)
  else if c.entityPrefix = c.containerPrefix then .error .samePrefix
  else if c.sourceExtensions = [] then .error .noExtensions
  else checkExtensions c.sourceExtensions

/-- The configuration that a text stores, if it is valid. -/
def parse (text : String) : Except ConfigError Config :=
  match (Json.parse? text).bind ofJson? with
  | none => .error .parse
  | some c =>
    match c.validate with
    | .error e => .error (.invalid e)
    | .ok () => .ok c

/-- What is reported when a configuration has been loaded from a file. -/
def loadedEvent (c : Config) (path : Path) : Event :=
  ⟨.configLoaded, [("language", c.language.name), ("path", path.text)]⟩

/-- Loads a configuration from a file, and reports that. -/
def load {m : Type → Type} [Monad m] [FileStore m] (path : Path) :
    m (Except ConfigError Config × List Event) := do
  match ← FileStore.read path with
  | .error fault => return (.error (.read path fault), [])
  | .ok text =>
    match parse text with
    | .error e => return (.error e, [])
    | .ok c => return (.ok c, [c.loadedEvent path])

/-! ## Names and sources -/

/-- Whether a path names a source that the configuration handles, going by its extension. -/
def handles (c : Config) (path : Path) : Bool :=
  match path.extension? with
  | none => false
  | some ext => c.sourceExtensions.any (sameIgnoringCase · ext)

/-- The entity of the source with a stem. -/
def entityName (c : Config) (stem : String) : String :=
  c.entityPrefix ++ stem

/-- The container of the source with a stem. -/
def containerName (c : Config) (stem : String) : String :=
  c.containerPrefix ++ stem

/-- The output directories in the order in which they are looked for. -/
def outputDirs (c : Config) : List Path :=
  [c.entityDir, c.containerDir, c.dataDir]

end Config

end TypedSheets
