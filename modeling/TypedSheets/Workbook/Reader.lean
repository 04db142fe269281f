import TypedSheets.Files.FileStore
import TypedSheets.Record.Binding
import TypedSheets.Workbook.Container
import TypedSheets.Workbook.TabSeparated

/-!
# Workbook readers

A `WorkbookReader` reads files of some extensions as workbooks, from what they hold: a text, or
bytes that are none, as a binary format has them. Of several readers for one extension the last is
used (`readerFor?`).
-/

namespace TypedSheets

/-- Why a file cannot be read as a workbook. -/
inductive WorkbookError
  | unreadable (path : Path) (fault : FileFault)
  | malformed (path : Path) (reason : String)
  | unsupported (ext : String)
  deriving DecidableEq, Repr

/-- The error as it is reported. -/
def WorkbookError.message : WorkbookError → String
  | .unreadable path fault => "Failed to open '" ++ path.text ++ "': " ++ fault.message
  | .malformed path reason => "Malformed container '" ++ path.text ++ "': " ++ reason
  | .unsupported ext => "No reader registered for extension '" ++ ext ++ "'"

/-- What reads the files of some extensions as workbooks. -/
structure WorkbookReader where
  /-- Extensions without the dot; letter case does not count. -/
  extensions : List String
  /-- The workbook that a file at a path stores, from what the file holds, or why there is none. -/
  decode : Path → Content → Except WorkbookError Workbook

namespace WorkbookReader

/-- Whether the reader is for files of an extension. -/
def handles (r : WorkbookReader) (ext : String) : Bool :=
  r.extensions.any (sameIgnoringCase · ext)

/-- A reader of texts. A file of other bytes is not readable for it. -/
def ofText (extensions : List String) (decode : Path → String → Except WorkbookError Workbook) :
    WorkbookReader where
  extensions := extensions
  decode origin content := do decode origin (← content.asText.mapError (.unreadable origin))

theorem ofText_decode (extensions : List String)
    (decode : Path → String → Except WorkbookError Workbook) (origin : Path) (text : String) :
    (ofText extensions decode).decode origin (.text text) = decode origin text :=
  rfl

/-- Reads the JSON container, with numbers read in the given way. -/
def jsonBy (read : NumberReading) : WorkbookReader :=
  ofText ["json"] fun origin text =>
    match Workbook.parseBy? read text with
    | some w => .ok w
    | none => .error (.malformed origin ("Invalid JSON: " ++ Json.faultText))

/-- Reads the JSON container. -/
def json : WorkbookReader :=
  jsonBy Binary64.ofNumeral?

/-- Reads tab-separated text in files of the given extensions. -/
def tabSeparated (extensions : List String) : WorkbookReader :=
  ofText extensions fun _ text => .ok (Workbook.ofTabSeparated text)

end WorkbookReader

/-- The reader for an extension. -/
def readerFor? (readers : List WorkbookReader) (ext : String) : Option WorkbookReader :=
  readers.reverse.find? (·.handles ext)

/-- Reads the workbook in a file. -/
def WorkbookReader.open {m : Type → Type} [Monad m] [FileStore m] (r : WorkbookReader)
    (path : Path) : m (Except WorkbookError Workbook) := do
  match ← FileStore.readContent path with
  | .error fault => return .error (.unreadable path fault)
  | .ok content => return r.decode path content

end TypedSheets
