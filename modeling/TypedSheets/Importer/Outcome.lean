import TypedSheets.Declaration.Render
import TypedSheets.Importer.Config
import TypedSheets.Workbook.Reader

/-!
# Outcomes of an import

What happened to one source is a `SourceStatus`; a `SourceOutcome` adds the files written for it.
What stops a whole run is an `ImportError`.
-/

namespace TypedSheets

/-- What has come of the import of a source. -/
inductive SourceStatus
  /-- Declarations and records were written. -/
  | compiled (records : Nat)
  /-- The declarations are current; the records were written. -/
  | unchanged (records : Nat)
  /-- No sheet has a header. -/
  | empty
  | rejected (errors : List String)
  /-- A name cannot be declared. -/
  | generationFailed (error : String)
  /-- The declarations are current, but the records could not be loaded. -/
  | loadFailed (error : String)
  | unreadable (error : String)
  | ignored
  deriving DecidableEq, Repr

namespace SourceStatus

/-- Whether the import has failed. -/
def isFailure : SourceStatus → Bool
  | .rejected _ | .generationFailed _ | .loadFailed _ | .unreadable _ => true
  | _ => false

/-- Whether declarations and records were written. -/
def isCompiled : SourceStatus → Bool
  | .compiled _ => true
  | _ => false

/-- A status as the members of an object, its name first. -/
def members : SourceStatus → List (String × Json)
  | .compiled records => [("status", .string "compiled"), ("records", Json.ofNat records)]
  | .unchanged records => [("status", .string "unchanged"), ("records", Json.ofNat records)]
  | .empty => [("status", .string "empty")]
  | .rejected errors => [("status", .string "rejected"), ("errors", Json.ofStrings errors)]
  | .generationFailed error => [("status", .string "generation_failed"), ("error", .string error)]
  | .loadFailed error => [("status", .string "load_failed"), ("error", .string error)]
  | .unreadable error => [("status", .string "unreadable"), ("error", .string error)]
  | .ignored => [("status", .string "ignored")]

end SourceStatus

/-- The status of a source, with the files written for it. -/
structure SourceOutcome where
  source : Path
  /-- The entity of the source; none if it is not handled. -/
  entity : Option String
  status : SourceStatus
  /-- The files written, in order. -/
  written : List Path := []
  deriving DecidableEq, Repr

/-- The outcome in a response. -/
def SourceOutcome.toJson (o : SourceOutcome) : Json :=
  .object [
    ("source", .string o.source.text),
    ("entity", (o.entity.map Json.string).getD .null),
    ("status", .object o.status.members),
    ("written", Json.ofStrings (o.written.map (·.text)))]

/-- The outcomes of the sources of an import, in order. -/
structure ImportSummary where
  sources : List SourceOutcome
  deriving DecidableEq, Repr

namespace ImportSummary

/-- The number of sources that have failed. -/
def failures (s : ImportSummary) : Nat :=
  s.sources.countP (·.status.isFailure)

/-- The number of sources that were compiled. -/
def compiledCount (s : ImportSummary) : Nat :=
  s.sources.countP (·.status.isCompiled)

/-- The first outcome of a source. -/
def outcome? (s : ImportSummary) (source : Path) : Option SourceOutcome :=
  s.sources.find? (·.source.same source)

/-- The summary in a response. -/
def toJson (s : ImportSummary) : Json :=
  .object [("sources", .array (s.sources.map SourceOutcome.toJson))]

end ImportSummary

/-- Why a declaration is not generated or written. -/
inductive GenerationError
  | missingTemplate (path : Path)
  | missingDirectory (path : Path)
  | invalidIdentifier (error : InvalidIdentifier)
  | file (path : Path) (fault : FileFault)
  deriving DecidableEq, Repr

namespace GenerationError

/-- The code of the error. -/
def code : GenerationError → String
  | .missingTemplate _ => "TBLC_MISSING_TEMPLATE"
  | .missingDirectory _ => "TBLC_MISSING_OUTPUT_DIRECTORY"
  | .invalidIdentifier _ => "TBLC_INVALID_IDENTIFIER"
  | .file _ _ => "TBLC_CODEGEN_IO"

/-- The error in words. -/
def message : GenerationError → String
  | .missingTemplate path => "Template not found: " ++ path.text
  | .missingDirectory path => "Output directory not found: " ++ path.text
  | .invalidIdentifier error => error.message
  | .file path fault => "I/O error on '" ++ path.text ++ "': " ++ fault.message

end GenerationError

/-- Why an operation of an importer stops. -/
inductive ImportError
  | config (error : ConfigError)
  | generation (error : GenerationError)
  /-- The directory of the entity declarations cannot be read. -/
  | registry (dir : Path) (fault : FileFault)
  /-- An artifact cannot be removed. -/
  | remove (path : Path) (fault : FileFault)
  deriving DecidableEq, Repr

namespace ImportError

/-- The code of the error. -/
def code : ImportError → String
  | .config _ => "TBLC_CONFIG_ERROR"
  | .generation error => error.code
  | .registry _ _ => "TBLC_REGISTRY_IO"
  | .remove _ _ => "TBLC_REMOVE_FAILED"

/-- The error in words. -/
def message : ImportError → String
  | .config error => error.message
  | .generation error => error.message
  | .registry dir fault =>
    "Failed to read descriptors from '" ++ dir.text ++ "': " ++ fault.message
  | .remove path fault => "Failed to remove '" ++ path.text ++ "': " ++ fault.message

end ImportError

end TypedSheets
