import TypedSheets.Declaration.Render
import TypedSheets.Descriptor.Registry
import TypedSheets.Schema.Compilation

/-!
# Compiling a declaration

`Generator.compile` compiles the schema of a workbook, renders its declaration and registers its
descriptor. The registry changes only when a declaration was rendered: not when a sheet is rejected,
not when every sheet is empty, and not when a name cannot be declared.
-/

namespace TypedSheets

/-- What compiling a declaration returns, with the registry after it and what it reports. -/
structure Declared where
  registry : Registry
  events : List Event
  result : Except InvalidIdentifier (Compilation × Option String)

namespace Compilation

/-- What is reported when sheets are rejected. -/
def failedEvent (c : Compilation) : Event :=
  ⟨.compileFailed, [("rejected_sheets", toString c.rejections.length), ("source", c.source)]⟩

/-- What is reported when a declaration has been rendered. -/
def completeEvent (c : Compilation) (s : TableSchema) : Event :=
  ⟨.compileComplete, [("columns", toString s.columns.length), ("entity", c.entity),
    ("source", c.source)]⟩

end Compilation

/-- Compiles the schema of a workbook, and renders and registers what it declares. -/
def Generator.compile (g : Generator) (registry : Registry) (source entity : String)
    (workbook : Workbook) : Declared :=
  let c := Compilation.run source entity workbook
  if !c.success then ⟨registry, c.events ++ [c.failedEvent], .ok (c, none)⟩
  else match c.schema with
    | none => ⟨registry, c.events, .ok (c, none)⟩
    | some s =>
      match g.renderEntity s entity with
      | .error e => ⟨registry, c.events, .error e⟩
      | .ok text =>
        ⟨registry.put (Descriptor.ofSchema s), c.events ++ [c.completeEvent s],
          .ok (c, some text)⟩

end TypedSheets
