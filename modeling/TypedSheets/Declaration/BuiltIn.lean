import TypedSheets.Declaration.Language

/-!
# Built-in templates

For every language a template of the declaration of an entity, with the marker lines of its
descriptor, and one of the declaration of the container that holds the records of the entity.
-/

namespace TypedSheets

namespace Placeholder

/-- Stands for the name of the entity. -/
def entity : String := "#ENTITYNAME#"

/-- Stands for the names of the columns, quoted. -/
def names : String := "#FIELDNAMES#"

/-- Stands for the written forms of the column types, quoted. -/
def types : String := "#FIELDTYPES#"

/-- Stands for the lines that declare the fields. -/
def fields : String := "#FIELDS#"

/-- Stands for the declarations of the enumerations. -/
def enums : String := "#ENUMDEF#"

/-- Stands for the name of the container. -/
def container : String := "#CONTAINERNAME#"

/-- Stands for the path of the source. -/
def source : String := "#SOURCEPATH#"

end Placeholder

/-- A text of lines, each with a line feed at its end. -/
def textOfLines (lines : List String) : String :=
  String.join (lines.map (· ++ "\n"))

namespace Language

/-- The template of the declaration of an entity. -/
def entityTemplate : Language → String
  | .csharp => textOfLines [
      "// ======================================================",
      "//      Auto-generated by tablec. Do not modify.",
      "// ======================================================",
      "// tablec:entity #ENTITYNAME#",
      "// tablec:fieldnames #FIELDNAMES#",
      "// tablec:fieldtypes #FIELDTYPES#",
      "using System;",
      "using System.Collections.Generic;",
      "",
      "[Serializable]",
      "[TableEntity(FieldNames = new string[] \x7b #FIELDNAMES# \x7d, " ++
        "FieldTypes = new string[] \x7b #FIELDTYPES# \x7d)]",
      "public class #ENTITYNAME#",
      "\x7b",
      "#FIELDS#",
      "#ENUMDEF#\x7d"]
  | .rust => textOfLines [
      "// Auto-generated by tablec. Do not modify.",
      "// tablec:entity #ENTITYNAME#",
      "// tablec:fieldnames #FIELDNAMES#",
      "// tablec:fieldtypes #FIELDTYPES#",
      "",
      "#[allow(non_camel_case_types)]",
      "#[derive(Debug, Clone, Default, PartialEq)]",
      "pub struct #ENTITYNAME# \x7b",
      "#FIELDS#",
      "\x7d"] ++ "#ENUMDEF#"

/-- The template of the declaration of a container. -/
def containerTemplate : Language → String
  | .csharp => textOfLines [
      "// ======================================================",
      "//      Auto-generated by tablec. Do not modify.",
      "// ======================================================",
      "using System;",
      "using System.Collections.Generic;",
      "",
      "[TableContainer(SourcePath = \"#SOURCEPATH#\")]",
      "public class #CONTAINERNAME#",
      "\x7b",
      "\tpublic List<#ENTITYNAME#> Entities = new List<#ENTITYNAME#>();",
      "",
      "\tpublic #ENTITYNAME# this[int index]",
      "\t\x7b",
      "\t\tget \x7b return index >= 0 && index < Entities.Count ? Entities[index] : null; \x7d",
      "\t\x7d",
      "",
      "\tpublic int Count",
      "\t\x7b",
      "\t\tget \x7b return Entities.Count; \x7d",
      "\t\x7d",
      "\x7d"]
  | .rust => textOfLines [
      "// Auto-generated by tablec. Do not modify.",
      "",
      "#[allow(non_camel_case_types)]",
      "#[derive(Debug, Clone, Default)]",
      "pub struct #CONTAINERNAME# \x7b",
      "    pub entities: Vec<#ENTITYNAME#>,",
      "\x7d",
      "",
      "impl #CONTAINERNAME# \x7b",
      "    pub const SOURCE_PATH: &'static str = \"#SOURCEPATH#\";",
      "",
      "    pub fn get(&self, index: usize) -> Option<&#ENTITYNAME#> \x7b",
      "        self.entities.get(index)",
      "    \x7d",
      "",
      "    pub fn len(&self) -> usize \x7b",
      "        self.entities.len()",
      "    \x7d",
      "",
      "    pub fn is_empty(&self) -> bool \x7b",
      "        self.entities.is_empty()",
      "    \x7d",
      "\x7d"]

end Language

end TypedSheets
