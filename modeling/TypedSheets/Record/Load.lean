import TypedSheets.Record.Binding
import TypedSheets.Record.LoadError
import TypedSheets.Descriptor.Registry

/-!
# Loading rows

The body of a sheet starts below its two schema rows and ends before the first row that is absent or
whose first cell is blank or absent (`Sheet.body`). A row of the body whose first cell is a string
that starts with a hash sign is a comment; every other is kept (`Sheet.keptRows`) and yields one
record.

A row that fails to coerce ends the whole load or is dropped, as the `Policy` says: `Policy.collect`
goes through the rows, and reports what it drops or where it stops.
-/

namespace TypedSheets

/-- What to do with a row that cannot be loaded. -/
inductive Policy
  | abort
  | skipRow
  deriving DecidableEq, Repr

/-- What a load returns, with what it reports. -/
structure Loaded (α : Type) where
  result : Except LoadError (List α)
  events : List Event

/-- What is reported of an error. -/
def LoadError.event (e : LoadError) (kind : EventKind) : Event :=
  ⟨kind, [("message", e.text), ("source", e.source)]⟩

/-- Loads rows one after the other. -/
def Policy.collect {α β : Type} (policy : Policy) (load : β → Except LoadError α) :
    List β → Loaded α
  | [] => ⟨.ok [], []⟩
  | row :: rows =>
    match load row with
    | .ok item =>
      let rest := policy.collect load rows
      ⟨rest.result.map (item :: ·), rest.events⟩
    | .error e =>
      match policy with
      | .abort => ⟨.error e, [e.event .loadAborted]⟩
      | .skipRow =>
        let rest := policy.collect load rows
        ⟨rest.result, e.event .rowSkipped :: rest.events⟩

namespace Sheet

/-- The first row below the schema rows. -/
def firstBodyRow : Nat := 2

/-- Whether a row ends the body. -/
def endsBody : Option Row → Bool
  | none | some [] | some (.blank :: _) => true
  | _ => false

/-- Whether a row is a comment. -/
def isComment : Row → Bool
  | .string s :: _ => s.toList.head? == some '#'
  | _ => false

/-- The rows of the body with their positions. -/
def body (sheet : Sheet) : List (Nat × Row) :=
  let slots := sheet.rows.zipIdx.drop firstBodyRow
  (slots.takeWhile fun (row, _) => !endsBody row).filterMap fun (row, i) => row.map (i, ·)

/-- The rows of the body that are no comments. -/
def keptRows (sheet : Sheet) : List (Nat × Row) :=
  sheet.body.filter fun (_, row) => !isComment row

end Sheet

/-- Coerces the cells of a row from column `i` on. -/
def coerceColumns (row : Row) (i : Nat) :
    List Column → Except (Nat × Column × CellFault) (List Value)
  | [] => .ok []
  | c :: rest =>
    match Cell.coerce c.type row[i]? with
    | .error fault => .error (i, c, fault)
    | .ok value => (coerceColumns row (i + 1) rest).map (value :: ·)

/-- Sets the members of an entity to the values of the columns from `i` on. -/
def bindValues {α : Type} (t : EntityType α) (b : Binding) (entity : α) (i : Nat) :
    List Value → Except (Nat × String) α
  | [] => .ok entity
  | value :: rest =>
    match b.slot? i with
    | none => bindValues t b entity (i + 1) rest
    | some slot =>
      match t.setMember entity slot value with
      | .error reason => .error (i, reason)
      | .ok entity => bindValues t b entity (i + 1) rest

/-- What is loaded, from where and how. -/
structure Loader where
  schema : TableSchema
  source : String
  policy : Policy := .abort

namespace Loader

/-- The values of a row, one for every column. -/
def rowValues (l : Loader) (sheet : Sheet) (row : Nat × Row) : Except LoadError (List Value) :=
  (coerceColumns row.2 0 l.schema.columns).mapError fun (i, c, fault) =>
    ⟨l.source, .cell ⟨sheet.name, ⟨row.1, i⟩, c.name⟩ fault⟩

/-- Loads a row into a record. -/
def loadRow (l : Loader) (sheet : Sheet) (row : Nat × Row) : Except LoadError Record :=
  (l.rowValues sheet row).map fun values => ⟨l.schema.names, values⟩

/-- Loads a row into an entity. -/
def loadRowInto {α : Type} (l : Loader) (t : EntityType α) (sheet : Sheet) (row : Nat × Row) :
    Except LoadError α :=
  match l.rowValues sheet row with
  | .error e => .error e
  | .ok values =>
    (bindValues t (.forMembers l.schema t.memberNames) t.initial 0 values).mapError
      fun (i, reason) =>
        ⟨l.source, .member ⟨sheet.name, ⟨row.1, i⟩, l.schema.names.getD i ""⟩ reason⟩

/-- Loads the kept rows of sheets in order, one sheet after the other. -/
def loadSheets {α : Type} (l : Loader) (load : Sheet → Nat × Row → Except LoadError α) :
    List Sheet → Loaded α
  | [] => ⟨.ok [], []⟩
  | sheet :: sheets =>
    let first := l.policy.collect (load sheet) sheet.keptRows
    match first.result with
    | .error e => ⟨.error e, first.events⟩
    | .ok items =>
      let rest := l.loadSheets load sheets
      ⟨rest.result.map (items ++ ·), first.events ++ rest.events⟩

/-- Loads the kept rows of a sheet. -/
def loadSheet (l : Loader) (sheet : Sheet) : Loaded Record :=
  l.policy.collect (l.loadRow sheet) sheet.keptRows

/-- Loads the kept rows of all sheets. -/
def loadWorkbook (l : Loader) (workbook : Workbook) : Loaded Record :=
  l.loadSheets l.loadRow workbook.sheets

/-- Loads the kept rows of a sheet into entities. -/
def loadSheetInto {α : Type} (l : Loader) (t : EntityType α) (sheet : Sheet) : Loaded α :=
  l.policy.collect (l.loadRowInto t sheet) sheet.keptRows

/-- Loads the kept rows of all sheets into entities. -/
def loadWorkbookInto {α : Type} (l : Loader) (t : EntityType α) (workbook : Workbook) :
    Loaded α :=
  l.loadSheets (l.loadRowInto t) workbook.sheets

end Loader

/-- Loads a workbook under the registered descriptor of an entity. -/
def Registry.load (r : Registry) (entity source : String) (workbook : Workbook) (policy : Policy) :
    Loaded Record :=
  match r.get? entity with
  | none => ⟨.error ⟨source, .noSchema entity⟩, []⟩
  | some d =>
    match d.toSchema with
    | .error fault => ⟨.error ⟨source, .badDescriptor fault⟩, []⟩
    | .ok schema => (Loader.mk schema source policy).loadWorkbook workbook

end TypedSheets
