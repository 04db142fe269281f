import TypedSheets.Schema.Sheet
import TypedSheets.Log.Event

/-!
# Compiling a workbook's schema

`Compilation.run` reads the schema of every sheet of a workbook under one agreement. A rejected
sheet does not stop the others. The compilation succeeds if no sheet is rejected; the schema is then
what the sheets agree on, or none if every sheet is empty.
-/

namespace TypedSheets

/-- Reads sheets in order, and returns the agreement with the faults of the sheets rejected. -/
def Agreement.readSheets (a : Agreement) : List Sheet → Agreement × List (Sheet × SheetFault)
  | [] => (a, [])
  | sheet :: rest =>
    match a.readSheet sheet with
    | (a, .ok _) => a.readSheets rest
    | (a, .error fault) =>
      let (a, faults) := a.readSheets rest
      (a, (sheet, fault) :: faults)

/-- The schema that the sheets of a workbook agree on, and the rejections. -/
structure Compilation where
  source : String
  entity : String
  sheets : Nat
  schema : Option TableSchema
  rejections : List Rejection
  deriving DecidableEq, Repr

namespace Compilation

/-- Compiles the schema of a workbook. -/
def run (source entity : String) (workbook : Workbook) : Compilation :=
  let (agreed, faults) := Agreement.fresh.readSheets workbook.sheets
  { source, entity
    sheets := workbook.sheets.length
    schema := if faults = [] then agreed.schema? entity else none
    rejections := faults.map fun (sheet, fault) => ⟨source, sheet.name, fault⟩ }

/-- Whether no sheet is rejected. -/
def success (c : Compilation) : Bool :=
  c.rejections.isEmpty

/-- The rejections as messages. -/
def messages (c : Compilation) : List String :=
  c.rejections.map (·.text)

/-- The summary of a compilation as JSON. -/
def summary (c : Compilation) : Json :=
  .object [
    ("source", .string c.source),
    ("entity", .string c.entity),
    ("success", .bool c.success),
    ("sheets", Json.ofNat c.sheets),
    ("field_names", Json.ofStrings ((c.schema.map TableSchema.names).getD [])),
    ("field_types", Json.ofStrings ((c.schema.map TableSchema.types).getD [])),
    ("errors", Json.ofStrings c.messages)]

/-- What is reported of a rejected sheet. -/
def rejectionEvent (r : Rejection) : Event :=
  ⟨.sheetRejected,
    [("code", r.code), ("message", r.text), ("sheet", r.sheet), ("source", r.source)]⟩

/-- What a compilation reports: that it begins, and every rejection. -/
def events (c : Compilation) : List Event :=
  ⟨.compileStart, [("source", c.source), ("sheets", toString c.sheets)]⟩ ::
    c.rejections.map rejectionEvent

end Compilation

end TypedSheets
