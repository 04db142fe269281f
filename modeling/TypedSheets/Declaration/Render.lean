import TypedSheets.Declaration.BuiltIn
import TypedSheets.Declaration.Identifier
import TypedSheets.Files.Path
import TypedSheets.Text.QuotedList
import TypedSheets.Text.Template

/-!
# Rendering declarations

A `Generator` is a language with a template of the entity declaration and one of the container
declaration. `renderEntity` declares a schema, with fields and enumerations in the order of the
columns; `renderContainer` declares the container of an entity's records. Both refuse what is no
identifier, and write nothing: `declarationPath` says which file a declaration belongs in.
-/

namespace TypedSheets

open Text

/-- A language with its two templates. -/
structure Generator where
  language : Language
  entityTemplate : String
  containerTemplate : String
  deriving DecidableEq, Repr

namespace Generator

/-- The generator of a language with its built-in templates. -/
def builtIn (l : Language) : Generator :=
  ⟨l, l.entityTemplate, l.containerTemplate⟩

/-- Checks the values of the enumeration in a column. -/
def checkDomain (column : String) : List String → Except InvalidIdentifier Unit
  | [] => .ok ()
  | value :: rest =>
    match checkIdentifier ("enum '" ++ column ++ "'") value with
    | .error e => .error e
    | .ok () => checkDomain column rest

/-- Checks the names of columns, and after each of them the values of its enumeration. -/
def checkColumns : List Column → Except InvalidIdentifier Unit
  | [] => .ok ()
  | c :: rest =>
    match checkIdentifier "column name" c.name with
    | .error e => .error e
    | .ok () =>
      match checkDomain c.name (c.type.domain?.getD []) with
      | .error e => .error e
      | .ok () => checkColumns rest

/-- What stands for the placeholders of an entity template. -/
def entitySubstitutions (l : Language) (s : TableSchema) (entity : String) :
    List (String × String) := [
  (Placeholder.entity, entity),
  (Placeholder.names, quoteStrings s.names),
  (Placeholder.types, quoteStrings s.types),
  (Placeholder.fields, "\n".intercalate (s.columns.map (l.fieldLine entity))),
  (Placeholder.enums, String.join (s.columns.filterMap fun c =>
    c.type.domain?.map (l.enumBlock entity c.name)))]

/-- The declaration of a schema under a name. -/
def renderEntity (g : Generator) (s : TableSchema) (entity : String) :
    Except InvalidIdentifier String :=
  match checkIdentifier "entity name" entity with
  | .error e => .error e
  | .ok () =>
    match checkColumns s.columns with
    | .error e => .error e
    | .ok () => .ok (fillString (entitySubstitutions g.language s entity) g.entityTemplate)

/-- The path of a source with slashes in place of backslashes. -/
def sourceText (source : Path) : String :=
  onChars (fun s => s.map fun c => if c = '\\' then '/' else c) source.text

/-- The declaration of the container with the records of an entity. -/
def renderContainer (g : Generator) (container entity : String) (source : Path) :
    Except InvalidIdentifier String :=
  match checkIdentifier "container name" container with
  | .error e => .error e
  | .ok () =>
    match checkIdentifier "entity name" entity with
    | .error e => .error e
    | .ok () =>
      .ok (fillString [
        (Placeholder.container, container),
        (Placeholder.entity, entity),
        (Placeholder.source, sourceText source)] g.containerTemplate)

/-- The name of the file with the declaration of a type. -/
def fileName (g : Generator) (type : String) : String :=
  type ++ "." ++ g.language.extension

/-- The file in a directory with the declaration of a type. -/
def declarationPath (g : Generator) (dir : Path) (type : String) : Path :=
  dir.join (g.fileName type)

end Generator

end TypedSheets
